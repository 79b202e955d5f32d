import TracerSettings.FileSystem
import TracerSettings.Proofs.Admission
import TracerSettings.Proofs.Agent.Endpoint
import TracerSettings.Proofs.Agent.NamedUrl
import TracerSettings.Proofs.Agent.WrittenPort
import TracerSettings.Proofs.Build.Admission
import TracerSettings.Proofs.Build.Coherence
import TracerSettings.Proofs.Build.Defaults
import TracerSettings.Proofs.Build.Failure
import TracerSettings.Proofs.Build.Numbers
import TracerSettings.Proofs.Build.Order
import TracerSettings.Proofs.Build.Provenance
import TracerSettings.Proofs.Build.Reads
import TracerSettings.Proofs.Build.ServiceName
import TracerSettings.Proofs.Build.Shared
import TracerSettings.Proofs.Build.Solid
import TracerSettings.Proofs.Build.Tags
import TracerSettings.Proofs.Build.Variables
import TracerSettings.Proofs.Choice
import TracerSettings.Proofs.Choice.Sets
import TracerSettings.Proofs.Config.Coherence
import TracerSettings.Proofs.Config.Provenance
import TracerSettings.Proofs.Config.Reads
import TracerSettings.Proofs.Config.Reports
import TracerSettings.Proofs.Credentials
import TracerSettings.Proofs.Credentials.Environment
import TracerSettings.Proofs.Credentials.Generations
import TracerSettings.Proofs.Firsts
import TracerSettings.Proofs.Journal
import TracerSettings.Proofs.Number.Integer
import TracerSettings.Proofs.OrderedMap.Slots
import TracerSettings.Proofs.Pairs.Entries
import TracerSettings.Proofs.Pairs.Tags
import TracerSettings.Proofs.Provenance
import TracerSettings.Proofs.Report.Header
import TracerSettings.Proofs.Report.Sections
import TracerSettings.Proofs.Reports
import TracerSettings.Proofs.Secrecy.Build
import TracerSettings.Proofs.Secrecy.Credentials
import TracerSettings.Proofs.Source.Agreement
import TracerSettings.Proofs.Source.Arrays
import TracerSettings.Proofs.Source.Flattened
import TracerSettings.Proofs.SplitSetting
import TracerSettings.Proofs.SplitSetting.Converted
import TracerSettings.Proofs.SplitSetting.Repeated
import TracerSettings.Proofs.Stack.Attributed
import TracerSettings.Proofs.Stack.Enabled
import TracerSettings.Proofs.Stack.Fallback
import TracerSettings.Proofs.Stack.FirstHit
import TracerSettings.Proofs.Stack.Merged
import TracerSettings.Proofs.Stack.Ranking
import TracerSettings.Proofs.Standard.Loading
import TracerSettings.Proofs.Standard.Path
import TracerSettings.Proofs.StatusSet.Runs
import TracerSettings.Proofs.StatusSet.Union
import TracerSettings.Proofs.StatusSet.Words
import TracerSettings.Proofs.StatusSet.Written
import TracerSettings.Proofs.Text.Character
import TracerSettings.Proofs.Text.Cut
import TracerSettings.Proofs.Tokens.Spread
import TracerSettings.Proofs.Toml.Tables
import TracerSettings.Proofs.Url.Address
import TracerSettings.Proofs.Url.Host
import TracerSettings.Proofs.Url.Parts
import TracerSettings.Proofs.Url.Path
import TracerSettings.Proofs.Url.Written
import TracerSettings.Report
import TracerSettings.Standard
