import ChatDispatch.CommandLine.Format
import ChatDispatch.Dispatcher.Execute
import ChatDispatch.Dispatcher.External
import ChatDispatch.Dispatcher.Setup
import ChatDispatch.Proofs.CommandLine.RoundTrip
import ChatDispatch.Proofs.Dispatcher.Shadowing
import ChatDispatch.Proofs.CommandLine.Grammar
import ChatDispatch.Proofs.CommandTables.Flat
import ChatDispatch.Proofs.Dispatcher.Registering
import ChatDispatch.Proofs.Dispatcher.Gates
import ChatDispatch.Proofs.Dispatcher.Concluding
import ChatDispatch.Proofs.Dispatcher.Course
import ChatDispatch.Proofs.Dispatcher.Steady
import ChatDispatch.Proofs.Dispatcher.Driving
import ChatDispatch.Proofs.Dispatcher.Interleaving
import ChatDispatch.Proofs.Dispatcher.Seeding
import ChatDispatch.Proofs.Dispatcher.Describing
import ChatDispatch.Proofs.Dispatcher.Rendering
import ChatDispatch.Proofs.Dispatcher.Delivering
import ChatDispatch.Proofs.Dispatcher.Selecting
import ChatDispatch.Proofs.Settings.Persistence
import ChatDispatch.Proofs.Dispatcher.Runnable
import ChatDispatch.Proofs.PluginModule
import ChatDispatch.Proofs.Dispatcher.Entering
import ChatDispatch.Proofs.Dispatcher.Mirroring
import ChatDispatch.Proofs.Dispatcher.Routes
import ChatDispatch.Proofs.CommandLine.Quoting
import ChatDispatch.Proofs.CommandLine.Building
import ChatDispatch.Proofs.CommandLine.Roles
import ChatDispatch.Proofs.CommandLine.Coercion
import ChatDispatch.Proofs.Dispatcher.Admitting
import ChatDispatch.Proofs.Dispatcher.Informing
import ChatDispatch.Proofs.Dispatcher.Replacing
import ChatDispatch.Proofs.Nested.Interchange
import ChatDispatch.Proofs.Dispatcher.Switching
import ChatDispatch.Proofs.Dispatcher.Advertising
import ChatDispatch.Proofs.Settings.Overriding
import ChatDispatch.Proofs.Nested.Resolving
import ChatDispatch.Proofs.ModelList
import ChatDispatch.Proofs.Model.Search
import ChatDispatch.Proofs.Dispatcher.Redeclaring
import ChatDispatch.Proofs.CommandLine.Endings
