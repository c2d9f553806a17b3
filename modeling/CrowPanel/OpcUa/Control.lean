import CrowPanel.Library.CText
import CrowPanel.DataModel.Types

/-!
# The requests to the client task

Other tasks steer the OPC UA client through a few fields of `struct opcua_client`: the endpoint, the
pause depth and the flags derived from them.  They are written under `configuration_mutex`, so each
of the functions below is one atomic step; the client task reads the flags without the mutex.
-/

namespace CrowPanel.OpcUa

open Library

/-- `OPCUA_CLIENT_ENDPOINT_LENGTH` -/
abbrev endpointLength : ℕ := 256

/-- The fields of `struct opcua_client` through which other tasks steer the client task. -/
structure ClientControl where
  endpointUrl : CharArray endpointLength
  stopRequested : Bool := false
  pauseRequested : Bool := false
  reconnectRequested : Bool := false
  pauseDepth : ℕ := 0
  deriving DecidableEq

namespace ClientControl

/-- `opcua_client_pause` -/
def pause (control : ClientControl) : ClientControl :=
  { control with
    pauseDepth := (control.pauseDepth + 1) % 2 ^ 32
    pauseRequested := true
    reconnectRequested := true }

/-- `opcua_client_resume` -/
def resume (control : ClientControl) : ClientControl :=
  let pauseDepth := if 0 < control.pauseDepth then control.pauseDepth - 1 else control.pauseDepth
  { control with pauseDepth, pauseRequested := 0 < pauseDepth }

/-- `opcua_client_start`, as far as the flags go. -/
def start (control : ClientControl) : ClientControl :=
  { control with stopRequested := false, pauseRequested := false, pauseDepth := 0 }

/-- `opcua_client_stop` -/
def stop (control : ClientControl) : ClientControl :=
  { control with stopRequested := true }

/-- `opcua_client_set_endpoint` -/
def setEndpoint (control : ClientControl) (endpointUrl : Option Text) : EspErr × ClientControl :=
  match endpointUrl with
  | none => (.invalidArg, control)
  | some url =>
      if url.take 10 ≠ ascii "opc.tcp://" then (.invalidArg, control)
      else if endpointLength ≤ url.length then (.invalidSize, control)
      else (.ok, { control with endpointUrl := .ofText _ url, reconnectRequested := true })

end ClientControl

end CrowPanel.OpcUa
