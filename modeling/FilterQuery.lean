import FilterQuery.Config.Setting
import FilterQuery.Filter.Truth
import FilterQuery.Main
import FilterQuery.Proofs.Acceptance
import FilterQuery.Proofs.CanonicalText
import FilterQuery.Proofs.ColonLanguage
import FilterQuery.Proofs.Composition
import FilterQuery.Proofs.Conjunction
import FilterQuery.Proofs.DisplayedOrder
import FilterQuery.Proofs.DocumentPlaces
import FilterQuery.Proofs.FilledTables
import FilterQuery.Proofs.FilterNumbers
import FilterQuery.Proofs.FlagsAndQuery
import FilterQuery.Proofs.ListItems
import FilterQuery.Proofs.MemberOrder
import FilterQuery.Proofs.NamedKeys
import FilterQuery.Proofs.NumberText
import FilterQuery.Proofs.QueryJson
import FilterQuery.Proofs.ReadableFilters
import FilterQuery.Proofs.SettingSequences
import FilterQuery.Proofs.SharedClauses
import FilterQuery.Proofs.SortOrder
import FilterQuery.Proofs.SpelledQuery
import FilterQuery.Proofs.SuffixLanguage
import FilterQuery.Proofs.TokenReading
import FilterQuery.Proofs.WellFormed
import FilterQuery.Proofs.WrittenClause
import FilterQuery.Proofs.WrittenJson
import FilterQuery.Query.Decode
