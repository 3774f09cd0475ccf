import EditorShell.Main
import EditorShell.Proofs.Project.RoundTrip
import EditorShell.Proofs.Shell.Mirror
import EditorShell.Proofs.Shell.Waiting
import EditorShell.Shell.Completion
import EditorShell.Shell.Waiting
import EditorShell.Store.Check
import EditorShell.Store.Operation
import EditorShell.Proofs.Shell.Restart
import EditorShell.Proofs.Store.Atomic
import EditorShell.Proofs.Store.Identity
import EditorShell.Proofs.Project.Identity
import EditorShell.Proofs.Shell.Identity
import EditorShell.Proofs.Project.WellNamed
import EditorShell.Proofs.Project.Normal
import EditorShell.Proofs.Store.Commute
import EditorShell.Proofs.Shell.History
import EditorShell.Proofs.Project.Text
import EditorShell.Proofs.Line.Expansion
import EditorShell.Proofs.Line.Quoting
import EditorShell.Proofs.Shell.Quoting
import EditorShell.Proofs.Shell.Terminal
import EditorShell.Proofs.Shell.Cwd
import EditorShell.Proofs.Shell.Allowed
import EditorShell.Proofs.Store.Renaming
import EditorShell.Proofs.Builtin.Removal
import EditorShell.Proofs.Invocation.Saving
import EditorShell.Proofs.Line.Grammar
import EditorShell.Proofs.Line.Arrangement
import EditorShell.Proofs.Line.Alias
import EditorShell.Proofs.Shell.Redirection
import EditorShell.Proofs.Line.Template
import EditorShell.Proofs.Store.Deletion
import EditorShell.Store.Query
import EditorShell.Proofs.Store.Revision
import EditorShell.Proofs.Builtin.Tree
import EditorShell.Proofs.Builtin.Variables
import EditorShell.Proofs.Shell.Prompt
import EditorShell.Proofs.Shell.Completion
import EditorShell.Proofs.Path.Correspondence
import EditorShell.Proofs.Builtin.Portions
import EditorShell.Proofs.Project.Damaged
import EditorShell.Proofs.Command.Registration
