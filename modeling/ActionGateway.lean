import ActionGateway.Main
import ActionGateway.Multipart.Reader
import ActionGateway.Proofs.OrderedMaps
import ActionGateway.Proofs.Records
import ActionGateway.Proofs.CacheEntries
import ActionGateway.Proofs.InvalidationRaces
import ActionGateway.Proofs.CoherentSessions
import ActionGateway.Proofs.MarkerNames
import ActionGateway.Proofs.SubstitutionModes
import ActionGateway.Proofs.JsonPaths
import ActionGateway.Proofs.SensitiveFields
import ActionGateway.Proofs.AcceptedManifests
import ActionGateway.Proofs.DefaultLine
import ActionGateway.Proofs.Intakes
import ActionGateway.Proofs.CacheHistories
import ActionGateway.Proofs.EntryPoints
import ActionGateway.Proofs.PartContents
import ActionGateway.Proofs.BindingLayers
import ActionGateway.Proofs.Normalizations
import ActionGateway.Proofs.ManifestResolutions
import ActionGateway.Proofs.Registries
import ActionGateway.Proofs.ExecutorCalls
import ActionGateway.Proofs.MarkerScan
import ActionGateway.Proofs.PlainValues
import ActionGateway.Proofs.LeftoverMarkers
import ActionGateway.Proofs.BoundedStaleness
import ActionGateway.Proofs.CacheCapacity
import ActionGateway.Proofs.RecordOrders
import ActionGateway.Proofs.BranchFamilies
import ActionGateway.Proofs.ServedContexts
import ActionGateway.Proofs.VariableReferences
import ActionGateway.Proofs.VariableBoundary
import ActionGateway.Proofs.BindingTemplates
import ActionGateway.Proofs.WellFormedValues
import ActionGateway.Proofs.LoadedConfigurations
import ActionGateway.Proofs.ArrivalOrders
import ActionGateway.Proofs.DispatchEndings
import ActionGateway.Proofs.EchoedCredentials
import ActionGateway.Proofs.FieldUploads
import ActionGateway.Proofs.WrittenManifests
import ActionGateway.Proofs.VariableChecks
import ActionGateway.Proofs.PaddedTemplates
import ActionGateway.Proofs.ApplicationInvalidations
import ActionGateway.Proofs.ChunkedBodies
import ActionGateway.Proofs.FormProtocol
import ActionGateway.Proofs.ConformingReader
import ActionGateway.Proofs.EncodedForms
import ActionGateway.Proofs.ReferenceTemplates
import ActionGateway.Proofs.BodyLimits
import ActionGateway.Proofs.IntegerSettings
import ActionGateway.Proofs.CoercedScalars
import ActionGateway.Proofs.EarlyHints
import ActionGateway.Proofs.TemplateSegments
import ActionGateway.Proofs.NativeValues
import ActionGateway.Proofs.Leaves
import ActionGateway.Proofs.LeafSubstitution
import ActionGateway.Proofs.ConsultedNames
import ActionGateway.Proofs.StrippedText
import ActionGateway.Proofs.DottedNames
import ActionGateway.Proofs.ValueParts
import ActionGateway.Proofs.AppliedDeadlines
import ActionGateway.Proofs.StableMasks
import ActionGateway.Proofs.ParameterLayers
import ActionGateway.Proofs.FailedStreams
