import ApiTypes.Draft
import ApiTypes.Main
import ApiTypes.Proofs.CommonSchemas
import ApiTypes.Proofs.DeclarationFates
import ApiTypes.Proofs.DeclaredNames
import ApiTypes.Proofs.DuplicateFields
import ApiTypes.Proofs.FaultyNodes
import ApiTypes.Proofs.FilteredLeaves
import ApiTypes.Proofs.HeldValues
import ApiTypes.Proofs.JsonDocuments
import ApiTypes.Proofs.LiteralConversion
import ApiTypes.Proofs.LiteralReading
import ApiTypes.Proofs.LoadedKeys
import ApiTypes.Proofs.NormalForm
import ApiTypes.Proofs.OutputLines
import ApiTypes.Proofs.ReferenceClosure
import ApiTypes.Proofs.Rejections
import ApiTypes.Proofs.RequiredMarks
import ApiTypes.Proofs.RoundedIntegers
import ApiTypes.Proofs.RunOutcomes
import ApiTypes.Proofs.SuccessiveWrites
import ApiTypes.Proofs.UnheardKeys
import ApiTypes.Proofs.UnseenExtensions
import ApiTypes.Proofs.UntypedObjects
