import IndexWatch.Tunnel.Target

/-! Where the storage service lives and how it is reached. -/

namespace IndexWatch

/-- The storage service. Its credentials are in the secret `secretName`, and are used where
`secure` is set. -/
structure Storage where
  ns : String
  serviceName : String
  selectorName : String
  port : UInt16
  secretName : String
  secure : Bool
deriving DecidableEq

namespace Storage

def tunnelTarget (storage : Storage) : Tunnel.Target where
  ns := storage.ns
  service := storage.serviceName
  selector := storage.selectorName
  remotePort := storage.port

/-- The storage service of a cluster that was set up without choices. -/
def standard : Storage where
  ns := "default"
  serviceName := "elasticsearch"
  selectorName := "elasticsearch"
  port := 9200
  secretName := "elasticsearch"
  secure := false

end Storage

end IndexWatch
