import TopicGateway.Text.Quoted

/-! Access to a broker. Where a broker is, and how a connection to it is made. Whatever is printed
of it leaves the password out. -/

namespace TopicGateway.Broker

structure Access where
  host : String
  port : UInt16
  vhost : String
  username : String
  password : String
  /-- Seconds between signs of life on a connection. -/
  heartbeat : UInt16
  /-- How many seconds one publishing may take while the broker holds the connection back. -/
  blockedTimeout : UInt64
  /-- What the broker shows the connection as. -/
  connectionName : String
  deriving DecidableEq

namespace Access

def standard : Access where
  host := "localhost"
  port := 5672
  vhost := "/"
  username := "guest"
  password := "guest"
  heartbeat := 600
  blockedTimeout := 300
  connectionName := "bgw-gateway"

def redacted : String := "<REDACTED>"

/-- Host, port and virtual host, with one slash between the last two unless the virtual host begins
with its own. -/
def target (a : Access) : String :=
  let slash := match a.vhost.toList with
    | '/' :: _ => ""
    | _ => "/"
  a.host ++ ":" ++ toString a.port.toNat ++ slash ++ a.vhost

def describe (a : Access) : String :=
  let members := [
    ("host", Text.quoted a.host),
    ("port", toString a.port.toNat),
    ("vhost", Text.quoted a.vhost),
    ("username", Text.quoted a.username),
    ("password", Text.quoted redacted),
    ("heartbeat_secs", toString a.heartbeat.toNat),
    ("blocked_connection_timeout_secs", toString a.blockedTimeout.toNat),
    ("connection_name", Text.quoted a.connectionName)]
  "BrokerConfig \x7b " ++ ", ".intercalate (members.map fun (name, value) => name ++ ": " ++ value) ++
    " \x7d"

end Access

end TopicGateway.Broker
