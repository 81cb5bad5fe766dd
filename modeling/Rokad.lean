import Rokad.Academic.OneCurrent
import Rokad.Access.AccountEnds
import Rokad.Access.NamedTenant
import Rokad.Attendance.DailySchedule
import Rokad.Audit.Encoding
import Rokad.Audit.Forks
import Rokad.Audit.Redaction
import Rokad.Audit.Replay
import Rokad.Audit.Tampering
import Rokad.Auth.Chains
import Rokad.Auth.Digits
import Rokad.Auth.SecondStep
import Rokad.Calendar.NeverStale
import Rokad.Chat.OwnChannels
import Rokad.Club.Reports
import Rokad.Club.TwoActive
import Rokad.Coaching.Slots
import Rokad.Enrollment.Capacity
import Rokad.Exams.HandIn
import Rokad.Exams.Paper
import Rokad.FeatureFlags.Current
import Rokad.Finance.Callbacks
import Rokad.Finance.Conservation
import Rokad.Finance.FinancialHold
import Rokad.Finance.GroupAllocation
import Rokad.Finance.ImportAgreement
import Rokad.Finance.Installments
import Rokad.Finance.Interleaving
import Rokad.Finance.OwnInstallments
import Rokad.Finance.Sayad
import Rokad.Gradebook.Identifiers
import Rokad.Gradebook.Keyed
import Rokad.Gradebook.Retakes
import Rokad.Homeworks.OwnWork
import Rokad.Ka.Interleaving
import Rokad.Members.OtherSchool
import Rokad.Members.Passwords
import Rokad.Messages.Confidential
import Rokad.Messages.Recipients
import Rokad.ParentVisits.Overbooked
import Rokad.Payroll.ExactlyOnce
import Rokad.Payroll.Sessions
import Rokad.Payroll.Totals
import Rokad.Payroll.WholeStaff
import Rokad.Polls.Acknowledged
import Rokad.Polls.Counted
import Rokad.Polls.Counts
import Rokad.Polls.Hidden
import Rokad.Profiles.OutOfSight
import Rokad.Rbac.Coherence
import Rokad.Rbac.Effective
import Rokad.Rbac.SelfLockout
import Rokad.Saas.InForce
import Rokad.Sms.Absences
import Rokad.Sms.OwnAccount
import Rokad.Tenancy.Extension
import Rokad.Tenants.Sections
import Rokad.Vault.Copies
import Rokad.Web.LostAnswers
import Rokad.Wizard.ReadBack
