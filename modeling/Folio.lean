import Folio.Main
import Folio.Service
import Folio.Proofs.AngleBrackets
import Folio.Proofs.ArtifactNames
import Folio.Proofs.BlockReading
import Folio.Proofs.Continuations
import Folio.Proofs.Deliveries
import Folio.Proofs.Diagnosis
import Folio.Proofs.FilledSections
import Folio.Proofs.Generations
import Folio.Proofs.Interleavings
import Folio.Proofs.JobCourses
import Folio.Proofs.JoinedSections
import Folio.Proofs.Outcomes
import Folio.Proofs.PageDocuments
import Folio.Proofs.Pagination
import Folio.Proofs.Precedence
import Folio.Proofs.Protection
import Folio.Proofs.Resolution
import Folio.Proofs.Restarts
import Folio.Proofs.RoundTrips
import Folio.Proofs.RowAlignment
import Folio.Proofs.Seeding
import Folio.Proofs.StoreReads
import Folio.Proofs.Strangers
import Folio.Proofs.UnseenRecords
import Folio.Proofs.WriteHistories
