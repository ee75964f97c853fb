import PaneLayout.Main
import PaneLayout.Proofs.Compile.Options
import PaneLayout.Proofs.Compile.Verdict
import PaneLayout.Proofs.CommandLine.Listing
import PaneLayout.Proofs.Config.Loaded
import PaneLayout.Proofs.Diagnosis.Backlog
import PaneLayout.Proofs.Diagnosis.Focus
import PaneLayout.Proofs.Diagnosis.Total
import PaneLayout.Proofs.PaneMap.Lookup
import PaneLayout.Proofs.Plan.Ratios
import PaneLayout.Proofs.Plan.Reordered
import PaneLayout.Proofs.Plan.Steps
import PaneLayout.Proofs.Ratio.Chain
import PaneLayout.Proofs.Ratio.Token
import PaneLayout.Proofs.Replay.Consent
import PaneLayout.Proofs.Replay.FailStop
import PaneLayout.Proofs.Replay.Names
import PaneLayout.Proofs.Replay.Own
import PaneLayout.Proofs.Replay.Rebuild
import PaneLayout.Proofs.Replay.Rehearsed
import PaneLayout.Proofs.Replay.Rejected
import PaneLayout.Proofs.Replay.Seeded
import PaneLayout.Proofs.Replay.Shown
import PaneLayout.Proofs.Replay.Tokens
import PaneLayout.Proofs.Server.Reuse
import PaneLayout.Proofs.Template.Named
import PaneLayout.Proofs.Text.DoubleQuoted
import PaneLayout.Storage.Tree
