import IndexWatch.Error

/-! The service that a tunnel leads to. -/

namespace IndexWatch.Tunnel

/-- A service port. `selector` is the value of the label `app` on the pods behind it. -/
structure Target where
  ns : String
  service : String
  selector : String
  remotePort : UInt16
deriving DecidableEq

namespace Target

def labelSelector (target : Target) : String := "app=" ++ target.selector

def setupFailed (target : Target) (reason : String) : Error :=
  .tunnelSetupFailed target.ns target.service target.remotePort reason

/-- No pod was found in the time that was spent, or that was given. -/
def noPodWithin (target : Target) (window : Duration) : Error :=
  target.setupFailed s!"No running pod matches {target.labelSelector} within {window.text}"

end Target

/-- How long finding a pod and starting to listen may take. -/
def standardSetupTimeout : Duration := .ofSeconds 30

end IndexWatch.Tunnel
