import Telemetry.Log.Setup
import Telemetry.Registry.Routine
import Telemetry.Settings.Reader
import Telemetry.Settings.Writer
import Telemetry.Task.Outline
import Telemetry.Proofs.Catalog
import Telemetry.Proofs.Collection.Ahead
import Telemetry.Proofs.Collection.Description
import Telemetry.Proofs.Collection.Modifiers
import Telemetry.Proofs.Collection.Spelling
import Telemetry.Proofs.Collection.Undefined
import Telemetry.Proofs.Collection.Warnings
import Telemetry.Proofs.Element.Tokens
import Telemetry.Proofs.Metric.Json
import Telemetry.Proofs.Metric.Modifier
import Telemetry.Proofs.Namespace.Decomposition
import Telemetry.Proofs.Pattern
import Telemetry.Proofs.Registry.Isolation
import Telemetry.Proofs.Registry.Requests
import Telemetry.Proofs.Rule.Compatibility
import Telemetry.Proofs.Rule.Direct
import Telemetry.Proofs.Rule.Extension
import Telemetry.Proofs.Rule.Insertion
import Telemetry.Proofs.Rule.Order
import Telemetry.Proofs.Settings.Separators
import Telemetry.Proofs.Task.Configuration
