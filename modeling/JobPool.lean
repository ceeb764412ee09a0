import JobPool.Decimal.Fixed
import JobPool.Main
import JobPool.Proofs.Engine.Answers
import JobPool.Proofs.Pool.Executions
import JobPool.Proofs.Engine.Entries
import JobPool.Proofs.Engine.Books
import JobPool.Proofs.Engine.Outcomes
import JobPool.Proofs.Engine.Attempts
import JobPool.Proofs.Pool.Mail
import JobPool.Proofs.Pool.Turnover
import JobPool.Proofs.Pool.Views
import JobPool.Proofs.Pool.Deliveries
import JobPool.Proofs.Requests
import JobPool.Proofs.Dispatching
import JobPool.Proofs.Records
import JobPool.Proofs.Capacity
import JobPool.Proofs.Engine.Handlings
import JobPool.Proofs.Engine.Registrations
import JobPool.Proofs.Engine.Closing
import JobPool.Proofs.Engine.Reasons
import JobPool.Proofs.Engine.Stopping
import JobPool.Proofs.Engine.Replies
import JobPool.Proofs.Pool.Orphans
import JobPool.Proofs.Tallies
import JobPool.Proofs.Reckonings
import JobPool.Proofs.Engine.Statistics
import JobPool.Proofs.DispatchEffect
import JobPool.Proofs.Engine.Quiescence
import JobPool.Proofs.Engine.Peers
import JobPool.Proofs.Pool.Succession
import JobPool.Proofs.Returns
import JobPool.Proofs.Selecting
import JobPool.Proofs.Comparison
import JobPool.Proofs.Preference
import JobPool.Proofs.Rotation
import JobPool.Proofs.Engine.FirstServed
import JobPool.Proofs.Moments
import JobPool.Proofs.Engine.Irrelevance
import JobPool.Proofs.Consultations
import JobPool.Proofs.Estimates
