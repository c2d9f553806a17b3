import CrowPanel.Settings.UartTask

/-!
# The receive buffer of the UART task

The fill level of `s_rx_buffer` is checked after each read, so a read can go past the end of the buffer.
A message that is too long is dropped where the buffer runs full, and what comes after that place is
taken for a message of its own.

## Strategy

`levelAfter` counts the bytes that have arrived since the buffer was last emptied, from the sizes of the
events alone; it is how full the buffer is (`iterate_level`, `run_level`).  Between two events that is
never more than `jsonBufSize - 2` bytes (`levelAfter_lt`).  So there is always room for the terminator,
and an event stays within the buffer exactly if its bytes fit next to those counted
(`handleEvent_inBounds_iff`).

For a message in chunks, `keep` is what one chunk does to the buffer, and the bytes that are left of all
chunks are those that are examined at the end.
-/

namespace CrowPanel.Settings

open Library

/-- An iteration: the notification that the task takes, and the event from the queue. -/
abbrev Iteration := Notification × Option UartEvent

/-- An iteration without a command that handles a data event. -/
def chunkOf (bytes : Text) (timeoutFlag : Bool) : Iteration :=
  ({}, some (.data bytes timeoutFlag))

variable (succeeds : UartParser → Text → Bool)

/-! ## Staying within the buffer -/

/-- Bytes are stored within `s_rx_buffer` only. -/
def UartOutput.InBounds : UartOutput → Prop
  | .store first count => ∀ index ∈ List.range' first count, index < jsonBufSize
  | _ => True

instance : ∀ output : UartOutput, Decidable output.InBounds
  | .store first count =>
      inferInstanceAs (Decidable (∀ index ∈ List.range' first count, index < jsonBufSize))
  | .examine _ | .parse _ _ | .respond _ => inferInstanceAs (Decidable True)

/-- The number of bytes that come with an event. -/
def UartEvent.size : UartEvent → ℕ
  | .data bytes _ => bytes.length
  | .fifoOverflow | .bufferFull | .other => 0

/-- The number of bytes since the buffer was last emptied, one event later.  The buffer is emptied at
the end of a message, where bytes have been lost, and where it has no room for another byte and the
terminator. -/
def levelAfter (level : ℕ) : UartEvent → ℕ
  | .data bytes timeoutFlag =>
      if timeoutFlag = true ∨ jsonBufSize - 1 ≤ level + bytes.length then 0
      else level + bytes.length
  | .fifoOverflow | .bufferFull => 0
  | .other => level

/-- The event that an iteration handles: one without a command, if the last command was a start. -/
def handledIn (listening : Bool) (iteration : Iteration) : Option UartEvent :=
  if iteration.1 = {} ∧ listening = true then iteration.2 else none

/-- The events that are handled one after the other. -/
def handled (listening : Bool) : List Iteration → List UartEvent
  | [] => []
  | iteration :: iterations =>
      (handledIn listening iteration).toList ++
        handled (iteration.1.listening listening) iterations

/-- The bytes of each event fit next to those that have arrived since the buffer was last emptied. -/
def FitAlong (level : ℕ) : List UartEvent → Prop
  | [] => True
  | event :: events => level + event.size ≤ jsonBufSize ∧ FitAlong (levelAfter level event) events

instance decidableFitAlong : ∀ (level : ℕ) (events : List UartEvent), Decidable (FitAlong level events)
  | _, [] => inferInstanceAs (Decidable True)
  | level, event :: events =>
      have := decidableFitAlong (levelAfter level event) events
      inferInstanceAs (Decidable (_ ∧ _))

theorem levelAfter_lt {level : ℕ} (hroom : level < jsonBufSize - 1) (event : UartEvent) :
    levelAfter level event < jsonBufSize - 1 := by
  cases event with
  | data bytes timeoutFlag =>
      by_cases hemptied : timeoutFlag = true ∨ jsonBufSize - 1 ≤ level + bytes.length
      · simp only [levelAfter, if_pos hemptied]
        decide
      · simp only [levelAfter, if_neg hemptied]
        exact not_le.mp (not_or.mp hemptied).2
  | fifoOverflow | bufferFull => exact (by decide : 0 < jsonBufSize - 1)
  | other => exact hroom

variable {succeeds}

theorem store_inBounds_iff {first count : ℕ} (hfirst : first < jsonBufSize) :
    (UartOutput.store first count).InBounds ↔ first + count ≤ jsonBufSize := by
  simp only [UartOutput.InBounds, List.mem_range'_1]
  constructor
  · intro hbound
    by_contra hpast
    have hlast := hbound (first + count - 1) ⟨by omega, by omega⟩
    omega
  · intro hbound index hindex
    omega

theorem clearBuffer_inBounds : clearBuffer.InBounds :=
  (store_inBounds_iff (by decide)).mpr (by decide)

/-- Looking for JSON stores nothing. -/
theorem examine_inBounds (text : Text) :
    ∀ output ∈ examine succeeds text, output.InBounds := by
  intro output houtput
  unfold examine at houtput
  cases output with
  | store first count =>
      exfalso
      split at houtput
      · simp at houtput
      · split at houtput
        · simp at houtput
        · split at houtput
          · simp at houtput
          · simp only [List.mem_cons, reduceCtorEq, false_or] at houtput
            split at houtput
            · split at houtput <;> simp at houtput
            · simp at houtput
  | examine text => trivial
  | parse parser json => trivial
  | respond response => trivial

namespace UartTask

variable {task : UartTask}

theorem handleEvent_level (event : UartEvent) :
    (task.handleEvent succeeds event).1.rxBuffer.length = levelAfter task.rxBuffer.length event := by
  cases event with
  | data bytes timeoutFlag =>
      simp only [handleEvent, levelAfter, List.length_append]
      by_cases hfull : jsonBufSize - 1 ≤ task.rxBuffer.length + bytes.length
      · rw [if_pos hfull, if_pos (Or.inr hfull)]
        rfl
      rw [if_neg hfull]
      by_cases hsilent : timeoutFlag = true
      · rw [if_pos hsilent, if_pos (Or.inl hsilent)]
        split <;> rfl
      · rw [if_neg hsilent, if_neg (not_or.mpr ⟨hsilent, hfull⟩), List.length_append]
  | fifoOverflow | bufferFull | other => rfl

/-- An event stays within the buffer exactly if its bytes fit. -/
theorem handleEvent_inBounds_iff (hroom : task.rxBuffer.length < jsonBufSize - 1)
    (event : UartEvent) :
    (∀ output ∈ (task.handleEvent succeeds event).2, output.InBounds) ↔
      task.rxBuffer.length + event.size ≤ jsonBufSize := by
  have hclear := clearBuffer_inBounds
  cases event with
  | data bytes timeoutFlag =>
      have hread : (UartOutput.store task.rxBuffer.length bytes.length).InBounds ↔
          task.rxBuffer.length + bytes.length ≤ jsonBufSize := store_inBounds_iff (by omega)
      have hrespond : (UartOutput.respond "ERROR: Buffer overflow").InBounds := trivial
      simp only [handleEvent, UartEvent.size]
      split
      · simp [hread, hclear, hrespond]
      · next hlevel =>
          have hterminator :
              (UartOutput.store (task.rxBuffer ++ bytes).length 1).InBounds :=
            (store_inBounds_iff (by omega)).mpr (by omega)
          have hexamine := @examine_inBounds succeeds ((task.rxBuffer ++ bytes).takeWhile (· ≠ 0))
          split
          · split
            · simp [hread, hclear]
            · simp only [List.cons_append, List.forall_mem_cons, List.forall_mem_append]
              constructor
              · intro hall
                exact hread.mp hall.1
              · intro hfits
                exact ⟨hread.mpr hfits, hterminator, trivial, hexamine, hclear,
                  List.forall_mem_nil _⟩
          · simp [hread]
  | fifoOverflow | bufferFull =>
      refine iff_of_true (by simpa [handleEvent] using hclear) ?_
      simp only [UartEvent.size]
      omega
  | other =>
      refine iff_of_true (by simp [handleEvent]) ?_
      simp only [UartEvent.size]
      omega

/-- An iteration that handles an event does nothing else. -/
theorem iterate_of_handled {iteration : Iteration} {event : UartEvent}
    (hhandled : handledIn task.listening iteration = some event) :
    task.iterate succeeds iteration.1 iteration.2 = task.handleEvent succeeds event := by
  obtain ⟨notification, queued⟩ := iteration
  unfold handledIn at hhandled
  split at hhandled
  · next htaken =>
      obtain ⟨rfl, hlistening⟩ := htaken
      obtain rfl : queued = some event := hhandled
      simp [iterate, hlistening]
  · cases hhandled

/-- An iteration that handles none leaves the buffer alone. -/
theorem iterate_of_idle {iteration : Iteration}
    (hidle : handledIn task.listening iteration = none) :
    (task.iterate succeeds iteration.1 iteration.2).1.rxBuffer = task.rxBuffer ∧
      ∀ output ∈ (task.iterate succeeds iteration.1 iteration.2).2, output.InBounds := by
  have hready : (UartOutput.respond "UART_READY").InBounds := trivial
  obtain ⟨⟨start, stop⟩, queued⟩ := iteration
  unfold iterate
  by_cases hstop : stop = true
  · rw [if_pos hstop]
    exact ⟨rfl, List.forall_mem_nil _⟩
  by_cases hstart : start = true
  · rw [if_neg hstop, if_pos hstart]
    exact ⟨rfl, by simpa using hready⟩
  by_cases hlistening : task.listening = false
  · rw [if_neg hstop, if_neg hstart, if_pos hlistening]
    exact ⟨rfl, List.forall_mem_nil _⟩
  rw [if_neg hstop, if_neg hstart, if_neg hlistening]
  obtain rfl : start = false := by simpa using hstart
  obtain rfl : stop = false := by simpa using hstop
  obtain rfl : queued = none := by
    have hlistens : task.listening = true := by simpa using hlistening
    rwa [handledIn, if_pos ⟨rfl, hlistens⟩] at hidle
  exact ⟨rfl, List.forall_mem_nil _⟩

/-- The buffer is as full as the sizes of the events tell. -/
theorem iterate_level (iteration : Iteration) :
    (task.iterate succeeds iteration.1 iteration.2).1.rxBuffer.length =
      (handledIn task.listening iteration).toList.foldl levelAfter task.rxBuffer.length := by
  cases hhandled : handledIn task.listening iteration with
  | none => exact congrArg List.length (iterate_of_idle hhandled).1
  | some event =>
      rw [iterate_of_handled hhandled]
      exact handleEvent_level event

theorem run_level (iterations : List Iteration) :
    (task.run succeeds iterations).1.rxBuffer.length =
      (handled task.listening iterations).foldl levelAfter task.rxBuffer.length := by
  induction iterations generalizing task with
  | nil => rfl
  | cons iteration iterations ih =>
      rw [run_cons, ih, iterate_level, iterate_listening, handled, List.foldl_append]

theorem run_inBounds_iff_fitAlong (hroom : task.rxBuffer.length < jsonBufSize - 1)
    (iterations : List Iteration) :
    (∀ output ∈ (task.run succeeds iterations).2, output.InBounds) ↔
      FitAlong task.rxBuffer.length (handled task.listening iterations) := by
  induction iterations generalizing task with
  | nil => exact iff_of_true (List.forall_mem_nil _) trivial
  | cons iteration iterations ih =>
      have hlevel := @iterate_level succeeds task iteration
      have hlistening := iterate_listening succeeds task iteration.1 iteration.2
      rw [run_cons, List.forall_mem_append, handled]
      cases hhandled : handledIn task.listening iteration with
      | none =>
          rw [hhandled] at hlevel
          have hrest := ih (hlevel.trans_lt hroom)
          rw [hlevel, hlistening] at hrest
          exact (and_iff_right (iterate_of_idle hhandled).2).trans hrest
      | some event =>
          rw [hhandled] at hlevel
          have hrest := ih (hlevel.trans_lt (levelAfter_lt hroom event))
          rw [hlevel, hlistening] at hrest
          refine and_congr ?_ hrest
          rw [iterate_of_handled hhandled]
          exact handleEvent_inBounds_iff hroom event

/-- However the task has been started, stopped and fed: nothing is stored outside the buffer exactly if
the bytes of each event that is handled fit next to those that have arrived since the buffer was last
emptied. -/
theorem stores_inBounds_iff (iterations : List Iteration) :
    (∀ output ∈ (run succeeds {} iterations).2, output.InBounds) ↔
      FitAlong 0 (handled false iterations) :=
  run_inBounds_iff_fitAlong (by decide) iterations

/-- Nine chunks of the size at which the driver reports one, before the line falls silent. -/
def longMessage : List Iteration :=
  ({ start := true }, none) ::
    List.replicate 9 (chunkOf (List.replicate 120 0x20) false)

theorem longMessage_overruns :
    ∃ output ∈ (run (fun _ _ => true) {} longMessage).2, ¬output.InBounds := by
  decide +kernel

end UartTask

/-! ## Messages in chunks -/

/-- What a chunk without the timeout flag does to the buffer. -/
def keep (rxBuffer chunk : Text) : Text :=
  if jsonBufSize - 1 ≤ (rxBuffer ++ chunk).length then [] else rxBuffer ++ chunk

/-- The bytes after the last chunk at which the buffer ran full. -/
def remainder (chunks : List Text) : Text :=
  chunks.foldl keep []

/-- The chunks of a message; only the last one comes with the timeout flag. -/
def arrival (chunks : List Text) (last : Text) : List Iteration :=
  chunks.map (chunkOf · false) ++ [chunkOf last true]

/-- The texts that are searched for JSON. -/
def examined (outputs : List UartOutput) : List Text :=
  outputs.filterMap fun output =>
    match output with
    | .examine text => some text
    | _ => none

/-- The parsers that are called. -/
def parsed (outputs : List UartOutput) : List (UartParser × Text) :=
  outputs.filterMap fun output =>
    match output with
    | .parse parser json => some (parser, json)
    | _ => none

@[simp] theorem examined_append (first second : List UartOutput) :
    examined (first ++ second) = examined first ++ examined second := by
  simp [examined]

@[simp] theorem parsed_append (first second : List UartOutput) :
    parsed (first ++ second) = parsed first ++ parsed second := by
  simp [parsed]

/-- The texts of which at least one must occur in a message that is passed on. -/
def markers : List Text :=
  (["api_keys", "wifi_password", "wifi_config", "ha_creds", "openplc_config", "opcua_config"].map
    typeMarker) ++ [ascii "\"password\""]

/-- A text in which the task finds something to pass on. -/
def Routable (text : Text) : Prop :=
  ∃ json, findJson (text.takeWhile (· ≠ 0)) = some json ∧ 10 < json.length ∧
    ∃ marker ∈ markers, Occurs marker json

theorem route_eq_none_iff (json : Text) :
    route json = none ↔ ∀ marker ∈ markers, ¬Occurs marker json := by
  unfold route
  simp only [markers, List.map_cons, List.map_nil, List.cons_append, List.nil_append,
    List.forall_mem_cons]
  constructor
  · intro hroute
    split_ifs at hroute with hkeys hwifi hcreds hendpoint hpassword
    rw [not_or] at hwifi hendpoint
    exact ⟨hkeys, hwifi.1, hwifi.2, hcreds, hendpoint.1, hendpoint.2, hpassword,
      List.forall_mem_nil _⟩
  · rintro ⟨hkeys, hwifiPassword, hwifiConfig, hcreds, hopenplc, hopcua, hpassword, -⟩
    rw [if_neg hkeys, if_neg (not_or.mpr ⟨hwifiPassword, hwifiConfig⟩), if_neg hcreds,
      if_neg (not_or.mpr ⟨hopenplc, hopcua⟩), if_neg hpassword]

/-- The parser for a text and what it is given, if any. -/
def passed (text : Text) : Option (UartParser × Text) :=
  (findJson text).bind fun json =>
    if json.length ≤ 10 then none else (route json).map fun parser => (parser, json)

theorem passed_eq_none_iff (text : Text) :
    passed (text.takeWhile (· ≠ 0)) = none ↔ ¬Routable text := by
  unfold passed Routable
  cases findJson (text.takeWhile (· ≠ 0)) with
  | none => simp
  | some json =>
      rw [Option.bind_some]
      by_cases hlength : json.length ≤ 10
      · simp [hlength, not_lt.mpr hlength]
      · rw [if_neg hlength, Option.map_eq_none_iff, route_eq_none_iff]
        simp [not_le.mp hlength]

/-- Looking for JSON examines nothing else, and calls one parser at most. -/
theorem examine_outputs (text : Text) :
    examined (examine succeeds text) = [] ∧
      parsed (examine succeeds text) = (passed text).toList := by
  unfold examine passed
  cases findJson text with
  | none => exact ⟨rfl, rfl⟩
  | some json =>
      dsimp only [Option.bind_some]
      by_cases hlength : json.length ≤ 10
      · rw [if_pos hlength, if_pos hlength]
        exact ⟨rfl, rfl⟩
      · rw [if_neg hlength, if_neg hlength]
        cases route json with
        | none => exact ⟨rfl, rfl⟩
        | some parser =>
            dsimp only
            split
            · split <;> exact ⟨rfl, rfl⟩
            · exact ⟨rfl, rfl⟩

namespace UartTask

variable {task : UartTask}

/-- A chunk without the timeout flag is kept, or dropped with everything before it. -/
theorem iterate_chunk (hlistening : task.listening = true) (chunk : Text) :
    (task.iterate succeeds {} (some (.data chunk false))).1 =
        { task with rxBuffer := keep task.rxBuffer chunk } ∧
      examined (task.iterate succeeds {} (some (.data chunk false))).2 = [] ∧
      parsed (task.iterate succeeds {} (some (.data chunk false))).2 = [] := by
  simp only [iterate, Bool.false_eq_true, if_false, hlistening, Bool.true_eq_false, handleEvent]
  unfold keep
  split <;> exact ⟨rfl, rfl, rfl⟩

/-- The chunk with the timeout flag ends the message; what is left of it is examined. -/
theorem iterate_last (hlistening : task.listening = true) (last : Text) :
    (task.iterate succeeds {} (some (.data last true))).1 = { task with rxBuffer := [] } ∧
      examined (task.iterate succeeds {} (some (.data last true))).2 =
        (if keep task.rxBuffer last = [] then []
          else [(keep task.rxBuffer last).takeWhile (· ≠ 0)]) ∧
      parsed (task.iterate succeeds {} (some (.data last true))).2 =
        (passed ((keep task.rxBuffer last).takeWhile (· ≠ 0))).toList := by
  simp only [iterate, Bool.false_eq_true, if_false, if_true, hlistening, Bool.true_eq_false,
    handleEvent]
  unfold keep
  split
  · exact ⟨rfl, rfl, rfl⟩
  · by_cases hempty : task.rxBuffer ++ last = []
    · rw [if_pos hempty, if_pos hempty, hempty]
      exact ⟨rfl, rfl, rfl⟩
    · obtain ⟨hexamined, hparsed⟩ :=
        @examine_outputs succeeds ((task.rxBuffer ++ last).takeWhile (· ≠ 0))
      rw [if_neg hempty, if_neg hempty]
      refine ⟨rfl, ?_, ?_⟩
      · show [_] ++ examined (examine succeeds _ ++ [clearBuffer]) = _
        rw [examined_append, hexamined]
        rfl
      · show parsed (examine succeeds _ ++ [clearBuffer]) = _
        rw [parsed_append, hparsed]
        exact List.append_nil _

/-- The chunks of a message, whatever the buffer held before them. -/
theorem run_arrival (hlistening : task.listening = true) (chunks : List Text) (last : Text) :
    (task.run succeeds (arrival chunks last)).1 = { task with rxBuffer := [] } ∧
      examined (task.run succeeds (arrival chunks last)).2 =
        (if (chunks ++ [last]).foldl keep task.rxBuffer = [] then []
          else [((chunks ++ [last]).foldl keep task.rxBuffer).takeWhile (· ≠ 0)]) ∧
      parsed (task.run succeeds (arrival chunks last)).2 =
        (passed (((chunks ++ [last]).foldl keep task.rxBuffer).takeWhile (· ≠ 0))).toList := by
  induction chunks generalizing task with
  | nil =>
      obtain ⟨htask, hexamined, hparsed⟩ := @iterate_last succeeds task hlistening last
      have hrun : task.run succeeds (arrival [] last) =
          ((task.iterate succeeds {} (some (.data last true))).1,
            (task.iterate succeeds {} (some (.data last true))).2 ++ []) := rfl
      rw [hrun, List.append_nil]
      exact ⟨htask, hexamined, hparsed⟩
  | cons chunk chunks ih =>
      obtain ⟨htask, hexamined, hparsed⟩ := @iterate_chunk succeeds task hlistening chunk
      obtain ⟨hrestTask, hrestExamined, hrestParsed⟩ :=
        @ih { task with rxBuffer := keep task.rxBuffer chunk } hlistening
      have hrun : task.run succeeds (arrival (chunk :: chunks) last) =
          (((task.iterate succeeds {} (some (.data chunk false))).1.run succeeds
              (arrival chunks last)).1,
            (task.iterate succeeds {} (some (.data chunk false))).2 ++
              ((task.iterate succeeds {} (some (.data chunk false))).1.run succeeds
                (arrival chunks last)).2) := run_cons succeeds task (chunkOf chunk false) _
      rw [hrun, examined_append, parsed_append, hexamined, hparsed, htask]
      exact ⟨hrestTask, hrestExamined, hrestParsed⟩

end UartTask

/-- Chunks that never fill the buffer are all kept. -/
theorem foldl_keep {rxBuffer : Text} {chunks : List Text}
    (hshort : (rxBuffer ++ chunks.flatten).length < jsonBufSize - 1) :
    chunks.foldl keep rxBuffer = rxBuffer ++ chunks.flatten := by
  induction chunks generalizing rxBuffer with
  | nil => simp
  | cons chunk chunks ih =>
      rw [List.flatten_cons, ← List.append_assoc] at hshort ⊢
      have hkept : keep rxBuffer chunk = rxBuffer ++ chunk := by
        refine if_neg ?_
        simp only [List.length_append] at hshort ⊢
        omega
      rw [List.foldl_cons, hkept]
      exact ih hshort

/-! ## Framing -/

/-- A message is examined as it was sent if it is not too long, and is dropped otherwise. -/
def Framed (message : Text) (outputs : List UartOutput) : Prop :=
  if message.length ≤ jsonBufSize - 2 then
    (examined outputs).flatten = message ∧ (examined outputs).length ≤ 1
  else parsed outputs = []

/-- For a task that listens with an empty buffer, and chunks that fit into the space left: the message
is framed exactly if it is short enough and holds no NUL, or it is too long and nothing after the last
chunk at which the buffer runs full is passed on.  The buffer is empty afterwards in any case. -/
theorem framed_iff {task : UartTask} (hlistening : task.listening = true)
    (hempty : task.rxBuffer = []) (chunks : List Text) (last : Text)
    (_hfits : FitAlong 0 (handled true (arrival chunks last))) :
    (task.run succeeds (arrival chunks last)).1.rxBuffer = [] ∧
      (Framed (chunks ++ [last]).flatten (task.run succeeds (arrival chunks last)).2 ↔
        ((chunks ++ [last]).flatten.length ≤ jsonBufSize - 2 ∧
            0 ∉ (chunks ++ [last]).flatten) ∨
          (jsonBufSize - 2 < (chunks ++ [last]).flatten.length ∧
            ¬Routable (remainder (chunks ++ [last])))) := by
  obtain ⟨htask, hexamined, hparsed⟩ :=
    @UartTask.run_arrival succeeds task hlistening chunks last
  rw [hempty] at hexamined hparsed
  refine ⟨by rw [htask], ?_⟩
  generalize hmessage : (chunks ++ [last]).flatten = message
  unfold Framed
  by_cases hlength : message.length ≤ jsonBufSize - 2
  · have hshort : ([] ++ (chunks ++ [last]).flatten).length < jsonBufSize - 1 := by
      rw [List.nil_append, hmessage]
      exact Nat.lt_of_le_of_lt hlength (by decide)
    have hkept : (chunks ++ [last]).foldl keep [] = message := by
      rw [foldl_keep hshort, List.nil_append, hmessage]
    rw [hkept] at hexamined
    rw [if_pos hlength, hexamined]
    by_cases hnothing : message = []
    · simp [hnothing]
    · rw [if_neg hnothing, List.flatten_singleton, List.takeWhile_eq_self_iff]
      constructor
      · intro hframed
        refine Or.inl ⟨hlength, fun hnul => ?_⟩
        simpa using hframed.1 0 hnul
      · rintro (hshort | hlong)
        · exact ⟨decide_ne_of_notMem hshort.2, le_rfl⟩
        · exact absurd hlong.1 (not_lt.mpr hlength)
  · rw [if_neg hlength, hparsed, ← passed_eq_none_iff]
    constructor
    · intro hnone
      exact Or.inr ⟨not_le.mp hlength, Option.toList_eq_nil_iff.mp hnone⟩
    · rintro (hshort | hlong)
      · exact absurd hshort.1 hlength
      · exact Option.toList_eq_nil_iff.mpr hlong.2

private def listener : UartTask := { listening := true }

private def credentials : Text :=
  0x7B :: typeMarker "ha_creds" ++ ascii ",\"login\":\"panel\"\x7d"

/-- A short message in two chunks is framed. -/
theorem framed_iff_credentials :
    Framed credentials
      (listener.run (fun _ _ => true) (arrival [credentials.take 9] (credentials.drop 9))).2 := by
  have hmessage : ([credentials.take 9] ++ [credentials.drop 9]).flatten = credentials := by decide
  have hframed := (@framed_iff (fun _ _ => true) listener rfl rfl [credentials.take 9]
    (credentials.drop 9) (by decide)).2
  rw [hmessage] at hframed
  exact hframed.mpr (Or.inl (by decide))

/-- The beginning of a message that fills the buffer to its last byte. -/
private def filling : List Text :=
  List.replicate 8 (List.replicate 128 0x20)

/-- The end of a message that is too long is parsed as if it were a message. -/
theorem credentials_parsed_alone :
    listener.listening = true ∧ listener.rxBuffer = [] ∧
      FitAlong 0 (handled true (arrival filling credentials)) ∧
      parsed (listener.run (fun _ _ => true) (arrival filling credentials)).2 =
        [(.haCreds, credentials)] ∧
      ¬Framed (filling ++ [credentials]).flatten
        (listener.run (fun _ _ => true) (arrival filling credentials)).2 := by
  have hparsed : parsed (listener.run (fun _ _ => true) (arrival filling credentials)).2 =
      [(.haCreds, credentials)] := by decide +kernel
  have hlong : ¬(filling ++ [credentials]).flatten.length ≤ jsonBufSize - 2 := by decide +kernel
  refine ⟨rfl, rfl, by decide +kernel, hparsed, ?_⟩
  rw [Framed, if_neg hlong, hparsed]
  exact List.cons_ne_nil _ _

end CrowPanel.Settings
