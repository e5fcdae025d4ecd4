import TenantQuery.Main
import TenantQuery.Proofs.Accounting
import TenantQuery.Proofs.AskedFilters
import TenantQuery.Proofs.AuditTrail
import TenantQuery.Proofs.Authorization
import TenantQuery.Proofs.EventLog
import TenantQuery.Proofs.InjectionResistance
import TenantQuery.Proofs.IntentReading
import TenantQuery.Proofs.LetterCase
import TenantQuery.Proofs.LikePatterns
import TenantQuery.Proofs.OutputNames
import TenantQuery.Proofs.Pruning
import TenantQuery.Proofs.Refusal
import TenantQuery.Proofs.ReplacedNames
import TenantQuery.Proofs.RoleMonotonicity
import TenantQuery.Proofs.RowSecurity
import TenantQuery.Proofs.TenantIsolation
import TenantQuery.Proofs.TimeWindows
import TenantQuery.Proofs.UncheckedText
import TenantQuery.Proofs.WrappedObject
import TenantQuery.Proofs.WrongKinds
import TenantQuery.Proofs.Calendar.Spelling
import TenantQuery.Proofs.DateTexts
import TenantQuery.Proofs.Calendar.IsoText
import TenantQuery.Proofs.DateLiterals
import TenantQuery.Proofs.Decimal.Rounding
import TenantQuery.Proofs.Json.IntegerLiteral
import TenantQuery.Proofs.Json.Members
import TenantQuery.Proofs.RowLimit
import TenantQuery.Proofs.SortOrder
import TenantQuery.Proofs.AddedFilters
import TenantQuery.Proofs.Decimal.RoundTrip
import TenantQuery.Proofs.Decimal.Constant
import TenantQuery.Proofs.Json.IntegerText
import TenantQuery.Proofs.Json.Places
import TenantQuery.Proofs.IntegerValues
import TenantQuery.Proofs.ChartAxes
import TenantQuery.Proofs.ExtractedObject
import TenantQuery.Proofs.DeclaredNames
import TenantQuery.Proofs.Json.ReadBack
import TenantQuery.Proofs.CommandArguments
import TenantQuery.Proofs.CommandOutcome
import TenantQuery.Proofs.NameSearch
import TenantQuery.Proofs.IntegerFields
