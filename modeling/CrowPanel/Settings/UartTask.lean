import CrowPanel.Library.CText

/-!
# The UART task

`uart_event_task` collects the bytes that arrive over UART in `s_rx_buffer`.  When the line falls
silent it looks for a JSON object in them and chooses a parser by the texts that occur in it.

An iteration of its loop takes an event from the driver's queue and the notifications that the other
tasks have set.  What the parsers do is left out; whether they succeed is a parameter.  The
notification that ends the task is left out as well.
-/

namespace CrowPanel.Settings

open Library

/-- `JSON_BUF_SIZE` -/
abbrev jsonBufSize : ℕ := 1024

/-! ## Looking for JSON -/

/-- The functions that read a message. -/
inductive UartParser
  /-- `parse_api_keys_json` -/
  | apiKeys
  /-- `parse_wifi_password_json` -/
  | wifiPassword
  /-- `parse_ha_creds_json` -/
  | haCreds
  /-- `parse_opcua_endpoint_json` -/
  | opcuaEndpoint
  deriving DecidableEq

/-- The member that names the type of a message, written without whitespace. -/
def typeMarker (type : String) : Text :=
  ascii ("\"type\":\"" ++ type ++ "\"")

/-- The beginnings of a message that are looked for behind other text, in this order. -/
def patterns : List Text :=
  (["wifi_password", "wifi_config", "api_keys", "ha_creds", "openplc_config", "opcua_config"].map
    fun type => 0x7B :: typeMarker type) ++ [ascii "\x7b\"password\""]

/-- A control character other than the ends of lines. -/
def isSkipped (byte : UInt8) : Bool :=
  byte < 32 && byte ≠ 0x0A && byte ≠ 0x0D

/-- Where the task takes the JSON object to begin. -/
def findJson (text : Text) : Option Text :=
  let jsonStart := text.dropWhile isSkipped
  if jsonStart.head? = some 0x7B then some jsonStart
  else patterns.findSome? (strstr jsonStart)

/-- The text occurs in the message. -/
def Occurs (text json : Text) : Prop :=
  (strstr json text).isSome

instance (text json : Text) : Decidable (Occurs text json) :=
  inferInstanceAs (Decidable (_ = true))

/-- The parser that is called for a message. -/
def route (json : Text) : Option UartParser :=
  if Occurs (typeMarker "api_keys") json then some .apiKeys
  else if Occurs (typeMarker "wifi_password") json ∨ Occurs (typeMarker "wifi_config") json then
    some .wifiPassword
  else if Occurs (typeMarker "ha_creds") json then some .haCreds
  else if Occurs (typeMarker "openplc_config") json ∨ Occurs (typeMarker "opcua_config") json then
    some .opcuaEndpoint
  else if Occurs (ascii "\"password\"") json then some .wifiPassword
  else none

/-! ## The task -/

/-- The local variables of `uart_event_task`.  The buffer stands for the `buffered` bytes at the front
of `s_rx_buffer`. -/
structure UartTask where
  listening : Bool := false
  rxBuffer : Text := []
  deriving DecidableEq

/-- The commands in a notification. -/
structure Notification where
  start : Bool := false
  stop : Bool := false
  deriving DecidableEq

/-- `uart_event_t`; a data event comes with the bytes that `uart_read_bytes` delivers for it. -/
inductive UartEvent
  | data (bytes : Text) (timeoutFlag : Bool)
  | fifoOverflow
  | bufferFull
  | other
  deriving DecidableEq

/-- What the task does with its buffer, on the line and with the parsers. -/
inductive UartOutput
  /-- Bytes are stored in `s_rx_buffer`. -/
  | store (first count : ℕ)
  /-- The text in the buffer is searched for JSON. -/
  | examine (text : Text)
  | parse (parser : UartParser) (json : Text)
  /-- `uart_send_response` -/
  | respond (response : String)
  deriving DecidableEq

/-- Clearing `s_rx_buffer` with `memset`. -/
def clearBuffer : UartOutput :=
  .store 0 jsonBufSize

/-- The notification that the task takes decides whether it listens; a stop goes before a start. -/
def Notification.listening (notification : Notification) (listening : Bool) : Bool :=
  if notification.stop then false else if notification.start then true else listening

section

variable (succeeds : UartParser → Text → Bool)

/-- What the task does about a text that it has received. -/
def examine (text : Text) : List UartOutput :=
  match findJson text with
  | none => []
  | some json =>
      if json.length ≤ 10 then []
      else
        match route json with
        | none => [.respond "\x7b\"status\":\"ERROR\",\"message\":\"Invalid format\"\x7d"]
        | some parser =>
            .parse parser json ::
              if succeeds parser json then
                if parser = .apiKeys then
                  [.respond "\x7b\"status\":\"OK\",\"message\":\"API keys received\"\x7d"]
                else []
              else [.respond "\x7b\"status\":\"ERROR\",\"message\":\"Invalid format\"\x7d"]

namespace UartTask

/-- The `switch` over the event in `uart_event_task` -/
def handleEvent (task : UartTask) : UartEvent → UartTask × List UartOutput
  | .data bytes timeoutFlag =>
      let received := UartOutput.store task.rxBuffer.length bytes.length
      let rxBuffer := task.rxBuffer ++ bytes
      if jsonBufSize - 1 ≤ rxBuffer.length then
        ({ task with rxBuffer := [] }, [received, .respond "ERROR: Buffer overflow", clearBuffer])
      else if timeoutFlag then
        if rxBuffer = [] then ({ task with rxBuffer := [] }, [received, clearBuffer])
        else
          -- the text ends at the terminator stored here, or at a NUL that was received
          let text := rxBuffer.takeWhile (· ≠ 0)
          ({ task with rxBuffer := [] },
            received :: .store rxBuffer.length 1 :: .examine text :: examine succeeds text ++
              [clearBuffer])
      else ({ task with rxBuffer }, [received])
  | .fifoOverflow | .bufferFull => ({ task with rxBuffer := [] }, [clearBuffer])
  | .other => (task, [])

/-- An iteration of the loop in `uart_event_task` -/
def iterate (task : UartTask) (notification : Notification) (queued : Option UartEvent) :
    UartTask × List UartOutput :=
  if notification.stop then ({ task with listening := notification.listening task.listening }, [])
  else if notification.start then
    ({ task with listening := notification.listening task.listening }, [.respond "UART_READY"])
  else if task.listening = false then (task, [])
  else
    match queued with
    | none => (task, [])
    | some event => task.handleEvent succeeds event

/-- A sequence of iterations. -/
def run (task : UartTask) : List (Notification × Option UartEvent) → UartTask × List UartOutput
  | [] => (task, [])
  | (notification, queued) :: iterations =>
      let (task, outputs) := task.iterate succeeds notification queued
      let (task, rest) := task.run iterations
      (task, outputs ++ rest)

theorem run_cons (task : UartTask) (iteration : Notification × Option UartEvent)
    (iterations : List (Notification × Option UartEvent)) :
    task.run succeeds (iteration :: iterations) =
      (((task.iterate succeeds iteration.1 iteration.2).1.run succeeds iterations).1,
        (task.iterate succeeds iteration.1 iteration.2).2 ++
          ((task.iterate succeeds iteration.1 iteration.2).1.run succeeds iterations).2) :=
  rfl

/-- Only commands decide whether the task listens. -/
theorem iterate_listening (task : UartTask) (notification : Notification)
    (queued : Option UartEvent) :
    (task.iterate succeeds notification queued).1.listening =
      notification.listening task.listening := by
  obtain ⟨start, stop⟩ := notification
  unfold iterate
  by_cases hstop : stop = true
  · rw [if_pos hstop]
  by_cases hstart : start = true
  · rw [if_neg hstop, if_pos hstart]
  rw [if_neg hstop, if_neg hstart]
  have hsame : Notification.listening ⟨start, stop⟩ task.listening = task.listening := by
    rw [Notification.listening, if_neg hstop, if_neg hstart]
  rw [hsame]
  split
  · rfl
  split
  · rfl
  · unfold handleEvent
    split
    · dsimp only
      split
      · rfl
      split
      · split <;> rfl
      · rfl
    all_goals rfl

end UartTask

end

end CrowPanel.Settings
