import Knust.Foundation.Outcome

namespace Knust

open Foundation

/-- The parts of `std::io::Error` that the library fills in or prints. -/
structure IoError where
  kind : String
  message : String
  deriving Repr, DecidableEq

inductive TransportError
  | connectionFailed (address : String) (source : IoError)
  | socketError (operation : String) (source : IoError)
  | timeout (timeoutMs : ℕ)
  | connectionClosed
  | invalidConfiguration (details : String)
  | queueFull
  | queueClosed
  | queueTimeout (timeoutMs : ℕ)
  deriving Repr, DecidableEq

inductive ProtocolError
  | parseError (offset : ℕ) (reason : String)
  | invalidFrame (details : String)
  | unsupportedVersion (version : UInt8)
  | cemiError (message : String)
  | dptError (dptType details : String)
  | invalidAddress (address reason : String)
  | notATelegram (serviceType : String)
  deriving Repr, DecidableEq

inductive SecurityError
  | authenticationFailed (reason : String)
  | invalidCredentials (details : String)
  | cryptographicError (operation reason : String)
  | sessionExpired
  | invalidConfiguration (details : String)
  deriving Repr, DecidableEq

inductive DeviceError
  | communicationTimeout (device : String) (timeoutMs : ℕ)
  deriving Repr, DecidableEq

inductive ConfigurationError
  | missingParameter (parameter : String)
  | invalidValue (parameter value reason : String)
  | parseError (file reason : String)
  | validationError (details : String)
  deriving Repr, DecidableEq

/-- Discovery and address errors are raised outside the modelled layers. -/
inductive KnxError
  | transport (e : TransportError)
  | protocol (e : ProtocolError)
  | device (e : DeviceError)
  | security (e : SecurityError)
  | configuration (e : ConfigurationError)
  deriving Repr, DecidableEq

abbrev Result (α : Type) := Outcome KnxError α

def TransportError.toString : TransportError → String
  | .connectionFailed address source => s!"Connection failed to {address}: {source.message}"
  | .socketError operation source => s!"Socket operation failed: {operation} - {source.message}"
  | .timeout timeoutMs => s!"Connection timeout after {timeoutMs}ms"
  | .connectionClosed => "Connection closed unexpectedly"
  | .invalidConfiguration details => s!"Invalid connection configuration: {details}"
  | .queueFull => "Queue is full, cannot enqueue more telegrams"
  | .queueClosed => "Queue is closed, no more operations allowed"
  | .queueTimeout timeoutMs => s!"Queue processing timeout after {timeoutMs}ms"

def ProtocolError.toString : ProtocolError → String
  | .parseError offset reason => s!"Frame parsing failed at offset {offset}: {reason}"
  | .invalidFrame details => s!"Invalid frame format: {details}"
  | .unsupportedVersion version => s!"Unsupported protocol version: {version}"
  | .cemiError message => s!"CEMI error: {message}"
  | .dptError dptType details => s!"DPT error: {dptType} - {details}"
  | .invalidAddress address reason => s!"Invalid address format: {address} - {reason}"
  | .notATelegram serviceType => s!"Frame is not a telegram: {serviceType}"

def DeviceError.toString : DeviceError → String
  | .communicationTimeout device timeoutMs =>
    s!"Communication timeout for {device} after {timeoutMs}ms"

def SecurityError.toString : SecurityError → String
  | .authenticationFailed reason => s!"Authentication failed: {reason}"
  | .invalidCredentials details => s!"Invalid security credentials: {details}"
  | .cryptographicError operation reason =>
    s!"Cryptographic operation failed: {operation} - {reason}"
  | .sessionExpired => "Security session expired"
  | .invalidConfiguration details => s!"Invalid security configuration: {details}"

def ConfigurationError.toString : ConfigurationError → String
  | .missingParameter parameter => s!"Missing required configuration parameter: {parameter}"
  | .invalidValue parameter value reason =>
    s!"Invalid configuration value for {parameter}: {value} - {reason}"
  | .parseError file reason => s!"Configuration file parsing failed: {file} - {reason}"
  | .validationError details => s!"Configuration validation failed: {details}"

def KnxError.toString : KnxError → String
  | .transport e => s!"Transport error: {e.toString}"
  | .protocol e => s!"Protocol error: {e.toString}"
  | .device e => s!"Device error: {e.toString}"
  | .security e => s!"Security error: {e.toString}"
  | .configuration e => s!"Configuration error: {e.toString}"

def parseError {α : Type} (offset : ℕ) (reason : String) : Result α :=
  .err (.protocol (.parseError offset reason))

theorem checked_eq_ok {α : Type} {p : Prop} [Decidable p] {offset : ℕ} {reason : String}
    {x : Result α} {a : α} :
    (if p then parseError offset reason else x) = .ok a ↔ ¬ p ∧ x = .ok a := by
  by_cases hp : p
  · simp [hp, parseError]
  · simp [hp]

def hexDigit (n : ℕ) : Char :=
  if n < 10 then Char.ofNat (48 + n) else Char.ofNat (55 + n)

def hex (width n : ℕ) : String :=
  String.ofList ((List.range width).reverse.map fun i ↦ hexDigit (n / 16 ^ i % 16))

end Knust
