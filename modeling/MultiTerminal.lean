import MultiTerminal.Dict
import MultiTerminal.Text
import MultiTerminal.Session
import MultiTerminal.Registry
import MultiTerminal.Interface
import MultiTerminal.Poll
import MultiTerminal.Stream
import MultiTerminal.Orchestrator
import MultiTerminal.Lifecycle
import MultiTerminal.E2ERunner
