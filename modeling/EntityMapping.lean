import EntityMapping.Proofs.EmbeddedShadowing
import EntityMapping.Proofs.RowRoundTrip
import EntityMapping.Proofs.TemplatePrinting
import EntityMapping.Session.Shortcuts
import EntityMapping.Source.EntityDeclaration
import EntityMapping.Source.Grammar
import EntityMapping.Proofs.TemplateSegments
import EntityMapping.Proofs.TemplateConcatenation
import EntityMapping.Proofs.VisibleFields
import EntityMapping.Proofs.MutationAlignment
import EntityMapping.Proofs.UnwrittenFields
import EntityMapping.Proofs.SchemaCircles
import EntityMapping.Proofs.MetadataRepresentation
import EntityMapping.Proofs.ColumnIndependence
import EntityMapping.Proofs.SetterCaching
import EntityMapping.Proofs.MetadataPublication
import EntityMapping.Proofs.LazyEvaluation
import EntityMapping.Proofs.StorageTypes
import EntityMapping.Proofs.ObjectVisibility
import EntityMapping.Proofs.PathPlaces
import EntityMapping.Proofs.WrittenValues
import EntityMapping.Proofs.AliasLookup
import EntityMapping.Proofs.OperationPlans
import EntityMapping.Proofs.PlanFailures
import EntityMapping.Proofs.StatementSending
import EntityMapping.Proofs.SetterOwners
import EntityMapping.Proofs.LabelCase
import EntityMapping.Proofs.FieldLimitedUpdates
import EntityMapping.Proofs.ReadableTexts
import EntityMapping.Proofs.AssignedIdentifiers
import EntityMapping.Proofs.ExactArithmetic
import EntityMapping.Proofs.FilterPresence
import EntityMapping.Proofs.AttributeLists
import EntityMapping.Proofs.WrittenTargets
import EntityMapping.Proofs.ComparisonOrder
import EntityMapping.Proofs.SpelledValues
import EntityMapping.Proofs.TokenLocality
import EntityMapping.Proofs.IntegerWidths
import EntityMapping.Proofs.SeparatedPieces
import EntityMapping.Proofs.ComparisonChains
