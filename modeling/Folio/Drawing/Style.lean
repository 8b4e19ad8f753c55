namespace Folio.Drawing

structure Color where
  red : Nat
  green : Nat
  blue : Nat
deriving DecidableEq, Repr

/-- The colour of titles. -/
def accent : Color := ⟨230, 81, 0⟩

/-- The colour of footer lines. -/
def muted : Color := ⟨97, 97, 97⟩

/-- A channel from 0 to 255 as hundredths, rounded. -/
def Color.hundredths (channel : Nat) : Nat :=
  (200 * channel + 255) / 510

structure Style where
  bold : Bool := false
  size : Nat := 12
  /-- Black if there is none. -/
  color : Option Color := none
deriving DecidableEq, Repr

structure Run where
  text : String
  style : Style
deriving DecidableEq, Repr

/-- The characters for which the font has a shape. -/
def hasShape (c : Char) : Bool :=
  let n := c.toNat
  (0x20 ≤ n && n ≤ 0x7E) || (0xA0 ≤ n && n ≤ 0x17F) || (0x391 ≤ n && n ≤ 0x3C9)
    || (0x410 ≤ n && n ≤ 0x44F) || (0x2010 ≤ n && n ≤ 0x2027) || n == 0x20AC

/-- The character that is shown: one without a shape is replaced. -/
def shown (c : Char) : Char :=
  if hasShape c then c else '\uFFFD'

def shownText (s : String) : String :=
  String.ofList (s.toList.map shown)

/-- The runs that leave a trace on paper. -/
def visible (runs : List Run) : List Run :=
  (runs.filter fun r => r.text ≠ "").map fun r => { r with text := shownText r.text }

end Folio.Drawing
