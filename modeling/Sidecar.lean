import Sidecar.Admission.Review
import Sidecar.Admission.Server
import Sidecar.Certificate.Basic
import Sidecar.Certificate.Bundle
import Sidecar.Certificate.IpAddress
import Sidecar.Cluster.Access
import Sidecar.Cluster.Load
import Sidecar.Command.Argument
import Sidecar.Command.Invocation
import Sidecar.Command.Page
import Sidecar.Command.Run
import Sidecar.Config.Environment
import Sidecar.Config.Injection
import Sidecar.Config.Settings
import Sidecar.Credentials
import Sidecar.Files.Path
import Sidecar.Files.Tree
import Sidecar.Http.Message
import Sidecar.Http.Reason
import Sidecar.Inject.Basic
import Sidecar.Inject.Template
import Sidecar.Json.Printer
import Sidecar.Json.Reader
import Sidecar.Log
import Sidecar.Main
import Sidecar.Manifest
import Sidecar.Number.Binary64
import Sidecar.Number.Shortest
import Sidecar.Pod.Decode
import Sidecar.Pod.Encode
import Sidecar.Pod.Model
import Sidecar.Proxy.Endpoint
import Sidecar.Proxy.Forward
import Sidecar.Proxy.Relay
import Sidecar.Registration.Apply
import Sidecar.Registration.Fleet
import Sidecar.Registration.Session
import Sidecar.Registration.Object
import Sidecar.Registration.Store
import Sidecar.Schema.Coerce
import Sidecar.Schema.Issue
import Sidecar.Startup
import Sidecar.Text.Base64
import Sidecar.Text.Blank
import Sidecar.Text.Percent
import Sidecar.Text.Printable
import Sidecar.Text.Similarity
import Sidecar.Text.Utf16
import Sidecar.Text.Utf8
import Sidecar.Time.Timestamp
import Sidecar.Value.Basic
import Sidecar.Value.Literal
import Sidecar.Yaml.Cursor
import Sidecar.Yaml.Document
import Sidecar.Yaml.Fault
import Sidecar.Yaml.Node
import Sidecar.Yaml.Numeral
import Sidecar.Yaml.Page
import Sidecar.Yaml.Style
import Sidecar.Yaml.Tag
import Sidecar.Yaml.Token
import Sidecar.Yaml.Token.Block
import Sidecar.Yaml.Token.Lexer
import Sidecar.Yaml.Token.Plain
import Sidecar.Yaml.Token.Property
import Sidecar.Yaml.Token.Quoted
import Sidecar.Yaml.Writer
import Sidecar.Proofs.Inject.Names
import Sidecar.Proofs.Inject.Outcome
import Sidecar.Proofs.Inject.Redirect
import Sidecar.Proofs.Config.Environment
import Sidecar.Proofs.Inject.Reinvocation
import Sidecar.Proofs.Json.Quoted
import Sidecar.Proofs.Number.Rounding
import Sidecar.Proofs.Number.Shortest
import Sidecar.Proofs.Json.Number
import Sidecar.Proofs.Json.Document
import Sidecar.Proofs.Json.Printable
import Sidecar.Proofs.Json.Limit
import Sidecar.Proofs.Schema.Field
import Sidecar.Proofs.Text.Base64
import Sidecar.Proofs.Text.Utf8
import Sidecar.Proofs.Pod.Decode
import Sidecar.Proofs.Pod.Spelling
import Sidecar.Proofs.Pod.Wellformed
import Sidecar.Proofs.Inject.Wellformed
import Sidecar.Proofs.Pod.Encode
import Sidecar.Proofs.Pod.Keyed
import Sidecar.Proofs.Pod.Objects
import Sidecar.Proofs.Pod.RoundTrip
import Sidecar.Proofs.Pod.Stability
import Sidecar.Proofs.Pod.Reload
import Sidecar.Proofs.Pod.Place.Basic
import Sidecar.Proofs.Pod.Place.Decode
import Sidecar.Proofs.Pod.Place.Encode
import Sidecar.Proofs.Pod.Place.Keyed
import Sidecar.Proofs.Inject.Unknown
import Sidecar.Proofs.Inject.Objects
import Sidecar.Proofs.Value.Path
import Sidecar.Proofs.Admission.Review
import Sidecar.Proofs.Admission.Server
import Sidecar.Proofs.Admission.Reinvocation
import Sidecar.Proofs.Value.Patch
import Sidecar.Proofs.Admission.Patch
import Sidecar.Proofs.Manifest.Writable
import Sidecar.Proofs.Manifest.Origins
import Sidecar.Proofs.Yaml.Reading
import Sidecar.Proofs.Yaml.Reload
import Sidecar.Proofs.Yaml.Hexadecimal
import Sidecar.Proofs.Startup.Endpoint
import Sidecar.Proofs.Manifest.Agreement
import Sidecar.Proofs.Manifest.Failure
import Sidecar.Proofs.Manifest.Stability
import Sidecar.Proofs.Registration.Session
import Sidecar.Proofs.Registration.Store
import Sidecar.Proofs.Registration.Server
import Sidecar.Proofs.Registration.Fleet
import Sidecar.Proofs.Proxy.Forward
import Sidecar.Proofs.Proxy.Relay
import Sidecar.Proofs.Inject.Isolation
import Sidecar.Proofs.Inject.Variables
import Sidecar.Proofs.Inject.Frame
import Sidecar.Proofs.Inject.Arrangement
import Sidecar.Proofs.Inject.Fault
import Sidecar.Proofs.Inject.Mounts
import Sidecar.Proofs.Inject.Reconfiguration
import Sidecar.Proofs.Inject.Order
import Sidecar.Proofs.Certificate.Bundle
import Sidecar.Proofs.Startup.Webhook
import Sidecar.Proofs.Schema.Respelling
import Sidecar.Proofs.Pod.Respelling
import Sidecar.Proofs.Files.Tree
import Sidecar.Proofs.Command.Injection
import Sidecar.Proofs.Files.Path
import Sidecar.Proofs.Files.Publish
import Sidecar.Proofs.Cluster.Load
import Sidecar.Proofs.Startup.Credentials
import Sidecar.Proofs.Startup.Proxy
