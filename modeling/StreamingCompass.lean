import StreamingCompass.Authority.Escalation
import StreamingCompass.Compass.ReadSideTotality
import StreamingCompass.Concurrency.CurrentResponse
import StreamingCompass.Concurrency.Deadlock
import StreamingCompass.Concurrency.Duplicates
import StreamingCompass.Concurrency.DurableReceipts
import StreamingCompass.Concurrency.ExactLinearization
import StreamingCompass.Concurrency.ProjectedLinearization
import StreamingCompass.Concurrency.GovernedRecovery
import StreamingCompass.Concurrency.MutualExclusion
import StreamingCompass.Concurrency.Observers
import StreamingCompass.Concurrency.OwnerLifecycle
import StreamingCompass.Concurrency.ReceiptCustody
import StreamingCompass.Concurrency.ReceiptNoninterference
import StreamingCompass.Concurrency.Reinvocation
import StreamingCompass.Concurrency.ReplayValidation
import StreamingCompass.Concurrency.Retry
import StreamingCompass.Concurrency.ScalarCursor
import StreamingCompass.Concurrency.SerialConfigurations
import StreamingCompass.Concurrency.WithinRoles
import StreamingCompass.Concurrency.WriteSideReceipts
import StreamingCompass.Core.ContractYamlText
import StreamingCompass.Core.MoneyRounding
import StreamingCompass.Governance.RateBudget
import StreamingCompass.Projection.CommandLanguage
import StreamingCompass.Projection.Redelivery
import StreamingCompass.Projection.SnapshotStore
import StreamingCompass.Serialization.Mapped
import StreamingCompass.Serialization.ReceiptConcurrency
import StreamingCompass.Transactional.ContractParity
import StreamingCompass.Transactional.Measurement
import StreamingCompass.Transactional.ModeEquivalence
import StreamingCompass.Transactional.StoreAgreement
