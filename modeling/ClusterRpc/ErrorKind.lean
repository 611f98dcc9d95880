/-! # The coarse classes of failure -/

namespace ClusterRpc

/-- What a caller can tell apart without looking at the details of a failure. -/
inductive ErrorKind where
  | hostNotFound
  | connectTimeout
  | connectRefusedOrOther
  | tlsHandshakeFailed
  | writeFailed
  | readFailed
  | malformedReply
  | authRequired
  | redirect
  | state
  | usage
deriving DecidableEq, Repr

end ClusterRpc
