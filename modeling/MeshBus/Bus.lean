/-!
# The bus, as the mesh adapters see it

The errors of bus sessions, and the reasons the kernel closes a flow with.
-/

namespace MeshBus

inductive DisconnectReason where
  | connectionRefused
  | networkUnreachable
  | hostUnreachable
  | ttlExpired
  | timedOut
  | upstreamEof
  | connectionReset
  | notConnected
  | noUsableExit
  | sessionClosed
  | readerClosed
  | queueFull
  | addressNotSupported
  | other (message : String)
  deriving DecidableEq

inductive SendError where
  | bufferFull
  | addressNotSupported
  | payloadTooLarge
  | closed
  deriving DecidableEq

inductive CloseReason where
  | ttlExpired
  | sessionClosed
  | noUsableExit
  | connectionRefused
  | networkUnreachable
  | hostUnreachable
  | timedOut
  | notConnected
  | connectionReset
  | upstreamEof
  | readerClosed
  | addressNotSupported
  | other (message : String)
  deriving DecidableEq

def closeFromDisconnect : DisconnectReason → CloseReason
  | .connectionRefused => .connectionRefused
  | .networkUnreachable => .networkUnreachable
  | .hostUnreachable => .hostUnreachable
  | .ttlExpired => .ttlExpired
  | .timedOut => .timedOut
  | .upstreamEof => .upstreamEof
  | .connectionReset => .connectionReset
  | .notConnected => .notConnected
  | .noUsableExit => .noUsableExit
  | .sessionClosed => .sessionClosed
  | .readerClosed => .readerClosed
  | .queueFull => .connectionReset
  | .addressNotSupported => .addressNotSupported
  | .other message => .other message

end MeshBus
