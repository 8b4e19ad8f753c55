import Folio.Data
import Folio.Template

namespace Folio.Store.Sample

def name : String := "RelatorioVendas"

def css : String :=
  "body \x7b font-family: Arial, sans-serif; font-size: 12px; margin: 20px; color: #333; "
    ++ "\x7d\n"
    ++ "h1 \x7b color: #FF6600; margin-bottom: 5px; \x7d\n"
    ++ ".header \x7b text-align: center; border-bottom: 2px solid #FF6600; "
    ++ "padding-bottom: 10px; margin-bottom: 20px; \x7d\n"
    ++ ".info \x7b background: #f9f9f9; padding: 10px; border-left: 4px solid #FF6600; "
    ++ "margin-bottom: 15px; \x7d\n"
    ++ ".table \x7b width: 100%; border-collapse: collapse; margin-top: 15px; \x7d\n"
    ++ ".table th \x7b background: #FF6600; color: white; padding: 8px; text-align: left; "
    ++ "\x7d\n"
    ++ ".table td \x7b padding: 8px; border-bottom: 1px solid #ddd; \x7d\n"
    ++ ".footer \x7b text-align: center; margin-top: 30px; font-size: 10px; color: #666; "
    ++ "border-top: 1px solid #ccc; padding-top: 10px; \x7d"

def header : String :=
  "<div class=\"header\"><h1>Relatório de Vendas - \x7b\x7bPeriodo\x7d\x7d</h1>"
    ++ "<p>\x7b\x7bEmpresa\x7d\x7d</p></div>"

def body : String :=
  "<div class=\"info\"><p><strong>Vendedor:</strong> \x7b\x7bVendedor\x7d\x7d</p><p>"
    ++ "<strong>Região:</strong> \x7b\x7bRegiao\x7d\x7d</p><p>"
    ++ "<strong>Total:</strong> \x7b\x7bTotalVendas\x7d\x7d</p></div>\n"
    ++ "<table class=\"table\"><thead><tr><th>Produto</th><th>Quantidade</th><th>Valor</th>"
    ++ "</tr></thead><tbody><tr><td>\x7b\x7bProduto\x7d\x7d</td>"
    ++ "<td>\x7b\x7bQuantidade\x7d\x7d</td><td>\x7b\x7bValor\x7d\x7d</td></tr></tbody></table>"

def footer : String :=
  "<div class=\"footer\">"
    ++ "<p>Gerado em \x7b\x7bDataGeracao\x7d\x7d por DynamicReportEngine</p></div>"

def field (order : Int) (name label section_ kind : String) (required : Bool) : Field :=
  ⟨0, 0, name, some label, section_, kind, order, required⟩

def fields : List Field := [
  field 1 "Periodo" "Período" "Header" "Text" true,
  field 2 "Empresa" "Nome da Empresa" "Header" "Text" true,
  field 3 "Vendedor" "Nome do Vendedor" "Body" "Text" true,
  field 4 "Regiao" "Região de Vendas" "Body" "Text" false,
  field 5 "TotalVendas" "Total de Vendas (R$)" "Body" "Currency" true,
  field 6 "Produto" "Nome do Produto" "Body" "Text" false,
  field 7 "Quantidade" "Quantidade Vendida" "Body" "Number" false,
  field 8 "Valor" "Valor Unitário" "Body" "Currency" false,
  field 9 "DataGeracao" "Data de Geração" "Footer" "Date" true]

def values : List (String × String) := [
  ("Periodo", "Janeiro/2024"),
  ("Empresa", "TechCorp Ltda"),
  ("Vendedor", "João Silva"),
  ("Regiao", "Sudeste"),
  ("TotalVendas", "R$ 45.320,00"),
  ("Produto", "Notebook Dell Inspiron 15"),
  ("Quantidade", "12"),
  ("Valor", "R$ 3.200,00"),
  ("DataGeracao", "2024-01-31 14:30:00")]

def template (now : DateTime) : Template :=
  ⟨⟨0, name, some css, some header, some body, some footer, true, 1, now, none⟩, fields⟩

def records (now : DateTime) : List Record :=
  values.map fun (field, value) => ⟨field, some value, now⟩

end Folio.Store.Sample
