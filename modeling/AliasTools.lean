import AliasTools.Main
import AliasTools.Release.Version
import AliasTools.Types.MethodDocs
import AliasTools.Proofs.Budget
import AliasTools.Proofs.LimitErrors
import AliasTools.Proofs.MappedPlaces
import AliasTools.Proofs.RecordedSizes
import AliasTools.Proofs.TextLimits
import AliasTools.Proofs.Gathering
import AliasTools.Proofs.Interleaving
import AliasTools.Proofs.Prefetch
import AliasTools.Proofs.Embeds
import AliasTools.Proofs.Imports
import AliasTools.Proofs.Splitting
import AliasTools.Proofs.CaseFiles
import AliasTools.Proofs.Configuration
import AliasTools.Proofs.PartialMatches
import AliasTools.Proofs.TryParts
import AliasTools.Proofs.FormattedTexts
import AliasTools.Proofs.Purses
import AliasTools.Proofs.CoinRows
import AliasTools.Proofs.WholeNumbers
import AliasTools.Proofs.CallForms
import AliasTools.Proofs.InferredTypes
import AliasTools.Proofs.InnermostCalls
import AliasTools.Proofs.StubLines
import AliasTools.Proofs.Sharing
import AliasTools.Proofs.SpentArguments
