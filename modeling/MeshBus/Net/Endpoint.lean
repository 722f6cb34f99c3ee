import MeshBus.Lib.Text
import MeshBus.Proto.Frame

/-!
# Endpoints as text

An endpoint is written as a host and a port with a colon between them; a host in brackets may
have colons of its own.
-/

namespace MeshBus.Proto

open Lib
open Lib.Text

def ParseError.text : ParseError → String
  | .emptyHost => "empty host"
  | .missingColon => "missing colon between host and port"
  | .invalidPort port => "invalid port: " ++ port
  | .hostTooLong len => "host too long: " ++ toString len ++ " bytes (max 255)"
  | .malformedIpv6 => "malformed ipv6 address (missing closing bracket)"

namespace Endpoint

def splitText : List Char → Except ParseError (List Char × List Char)
  | '[' :: rest =>
    match splitOnce ']' rest with
    | none => .error .malformedIpv6
    | some (host, after) =>
      match after with
      | ':' :: port => .ok (host, port)
      | _ => .error .missingColon
  | input => (rsplitOnce ':' input).elim (.error .missingColon) .ok

def parse (input : List Char) : Except ParseError Endpoint := do
  let (host, port) ← splitText input
  match parseU16 port with
  | .error _ => .error (.invalidPort (String.ofList port))
  | .ok port => Endpoint.new (String.ofList host) port

section
variable {host port : List Char}

lemma parse_bracketed (hhost : ']' ∉ host) {value : UInt16} (hport : parseU16 port = .ok value) :
    parse ('[' :: host ++ ']' :: ':' :: port) = Endpoint.new (String.ofList host) value := by
  have hsplit : splitText ('[' :: host ++ ']' :: ':' :: port) = .ok (host, port) := by
    rw [List.cons_append, splitText, splitOnce_append hhost]
    rfl
  rw [parse, hsplit]
  simp only [bind, Except.bind, hport]

lemma splitText_plain (h : ∀ rest, input ≠ '[' :: rest) :
    splitText input = (rsplitOnce ':' input).elim (.error .missingColon) .ok := by
  unfold splitText
  split
  · next rest => exact absurd rfl (h rest)
  · rfl

end
end Endpoint
end MeshBus.Proto
