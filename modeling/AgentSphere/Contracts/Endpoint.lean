import AgentSphere.Contracts.Text

/-!
# Endpoints

The check of an endpoint that the proxy for tool servers and the adapter for remote agents share.
URLs are parsed by another crate.
-/

namespace AgentSphere

structure EndpointUrl where
  scheme : String
  username : String
  password : Option String
  fragment : Option String
  hostStr : Option String
  deriving DecidableEq, Repr

def localHosts : List String := ["localhost", "127.0.0.1", "::1", "0.0.0.0", "169.254.169.254"]

/-- `secure_https_endpoint` and `secure_agent_endpoint`. -/
def secureEndpoint (parseUrl : String → Option EndpointUrl) (endpoint : String) : Bool :=
  match parseUrl endpoint with
  | none => false
  | some url =>
    url.scheme = "https" && url.username.isEmpty && url.password.isNone && url.fragment.isNone &&
      url.hostStr.any fun host => !localHosts.contains (toAsciiLowercase host)

end AgentSphere
