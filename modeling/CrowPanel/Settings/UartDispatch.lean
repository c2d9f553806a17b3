import CrowPanel.Library.Json
import CrowPanel.Settings.UartBuffer
import Mathlib.Data.List.Basic

/-!
# Choosing a parser

The task chooses a parser by texts that occur in a message, the parsers read the message as JSON.  The
two agree only on messages that are written in the way the task looks for: nothing but tabs before the
brace or one of the known beginnings, the member `type` without blanks, and no such member of another
type anywhere in the text.

## Strategy

`Begins` and `Recognized` say what the task looks for.  For a text of a JSON object `findJson` finds the
begin (`findJson_eq_some_iff`); `route` chooses by `Recognized` (`route_eq_some_iff`).  A message that is
short enough is examined as a whole, however it arrives (`run_arrival`).
-/

namespace CrowPanel.Settings

open Library

/-- The types of the messages that a parser reads. -/
def messageTypes : UartParser → List String
  | .apiKeys => ["api_keys"]
  | .wifiPassword => ["wifi_password", "wifi_config"]
  | .haCreds => ["ha_creds"]
  | .opcuaEndpoint => ["openplc_config", "opcua_config"]

/-- The member `type` of such a message occurs, written without blanks. -/
def Marked (parser : UartParser) (json : Text) : Prop :=
  ∃ type ∈ messageTypes parser, Occurs (typeMarker type) json

instance (parser : UartParser) (json : Text) : Decidable (Marked parser json) :=
  inferInstanceAs (Decidable (∃ type ∈ messageTypes parser, Occurs (typeMarker type) json))

/-- The parsers whose messages are looked for before. -/
def testedBefore : UartParser → List UartParser
  | .apiKeys => []
  | .wifiPassword => [.apiKeys]
  | .haCreds => [.apiKeys, .wifiPassword]
  | .opcuaEndpoint => [.apiKeys, .wifiPassword, .haCreds]

/-- The task takes a text for a message to this parser. -/
def Recognized (parser : UartParser) (json : Text) : Prop :=
  (Marked parser json ∧ ∀ earlier ∈ testedBefore parser, ¬Marked earlier json) ∨
    (parser = .wifiPassword ∧ (∀ other, ¬Marked other json) ∧ Occurs (ascii "\"password\"") json)

/-- Where the task takes a message to begin: at a brace with nothing but tabs before it, or else at the
first of the known beginnings that occurs. -/
def Begins (text json : Text) : Prop :=
  (∃ tabs, (∀ byte ∈ tabs, byte = 0x09) ∧ text = tabs ++ json ∧ json.head? = some 0x7B) ∨
    ((¬∃ tabs rest, (∀ byte ∈ tabs, byte = 0x09) ∧ text = tabs ++ 0x7B :: rest) ∧
      patterns.findSome? (strstr text) = some json)

variable {text json : Text} {parser : UartParser}

/-! ## The begin -/

theorem head?_of_mem_patterns {pattern : Text} (hpattern : pattern ∈ patterns) :
    pattern.head? = some 0x7B := by
  have hall : ∀ pattern ∈ patterns, pattern.head? = some 0x7B := by decide
  exact hall pattern hpattern

theorem dropWhile_of_tabs {tabs rest : Text} (htabs : ∀ byte ∈ tabs, byte = 0x09) :
    (tabs ++ 0x7B :: rest).dropWhile isSkipped = 0x7B :: rest := by
  rw [List.dropWhile_append_of_pos]
  · rfl
  · intro byte hbyte
    rw [htabs byte hbyte]
    decide

/-- Of the blanks before an object only tabs are skipped. -/
theorem takeWhile_tabs {blank rest : Text} (hblank : Json.Blank blank) :
    ∀ byte ∈ (blank ++ 0x7B :: rest).takeWhile isSkipped, byte = 0x09 := by
  induction blank with
  | nil =>
      have hbrace : isSkipped 0x7B = false := by decide
      simp [hbrace]
  | cons byte bytes ih =>
      obtain ⟨hbyte, hbytes⟩ := List.forall_mem_cons.mp hblank
      by_cases hskipped : isSkipped byte = true
      · rw [List.cons_append, List.takeWhile_cons_of_pos hskipped]
        refine List.forall_mem_cons.mpr ⟨?_, ih hbytes⟩
        simp only [List.mem_cons, List.not_mem_nil, or_false] at hbyte
        rcases hbyte with rfl | rfl | rfl | rfl
        · exact absurd hskipped (by decide)
        · rfl
        · exact absurd hskipped (by decide)
        · exact absurd hskipped (by decide)
      · rw [List.cons_append, List.takeWhile_cons_of_neg hskipped]
        exact List.forall_mem_nil _

theorem findJson_eq_some_iff {members : List (Text × Json)}
    (hdocument : Json.IsTextOf text (.object members)) :
    findJson text = some json ↔ Begins text json := by
  obtain ⟨blank, rest, hblank, rfl⟩ := hdocument.brace
  have htabs := @takeWhile_tabs blank rest hblank
  generalize htext : blank ++ 0x7B :: rest = text at htabs
  have hsplit : text.takeWhile isSkipped ++ text.dropWhile isSkipped = text :=
    List.takeWhile_append_dropWhile
  unfold findJson Begins
  by_cases hbrace : (text.dropWhile isSkipped).head? = some 0x7B
  · simp only [if_pos hbrace, Option.some.injEq]
    constructor
    · rintro rfl
      exact Or.inl ⟨_, htabs, hsplit.symm, hbrace⟩
    · rintro (⟨tabs, hother, htextEq, hhead⟩ | ⟨hnone, -⟩)
      · obtain ⟨tail, rfl⟩ := List.head?_eq_some_iff.mp hhead
        rw [htextEq, dropWhile_of_tabs hother]
      · obtain ⟨tail, htail⟩ := List.head?_eq_some_iff.mp hbrace
        exact absurd ⟨_, tail, htabs, by rw [← htail, hsplit]⟩ hnone
  · have hnone : ¬∃ tabs rest, (∀ byte ∈ tabs, byte = 0x09) ∧ text = tabs ++ 0x7B :: rest := by
      rintro ⟨tabs, tail, hother, htextEq⟩
      rw [htextEq, dropWhile_of_tabs hother] at hbrace
      exact hbrace rfl
    have hsearch : ∀ pattern ∈ patterns,
        strstr (text.dropWhile isSkipped) pattern = strstr text pattern := by
      intro pattern hpattern
      have hfirst : 0x7B ∉ text.takeWhile isSkipped := fun hmem =>
        absurd (htabs 0x7B hmem) (by decide)
      have hskip := strstr_skip (text.dropWhile isSkipped) (head?_of_mem_patterns hpattern) hfirst
      rw [hsplit] at hskip
      exact hskip.symm
    have hfind : patterns.findSome? (strstr (text.dropWhile isSkipped)) =
        patterns.findSome? (strstr text) := by
      rw [← List.head?_filterMap, List.filterMap_congr hsearch, List.head?_filterMap]
    rw [if_neg hbrace, hfind]
    constructor
    · exact fun hfound => Or.inr ⟨hnone, hfound⟩
    · rintro (⟨tabs, hother, htextEq, hhead⟩ | ⟨-, hfound⟩)
      · obtain ⟨tail, rfl⟩ := List.head?_eq_some_iff.mp hhead
        exact absurd ⟨tabs, tail, hother, htextEq⟩ hnone
      · exact hfound

/-- Wherever a message begins, it begins with a brace. -/
theorem Begins.head (hbegins : Begins text json) : json.head? = some 0x7B := by
  rcases hbegins with ⟨tabs, -, -, hhead⟩ | ⟨-, hfound⟩
  · exact hhead
  · obtain ⟨pattern, hpattern, hfound⟩ := List.exists_of_findSome?_eq_some hfound
    obtain ⟨⟨rest, rfl⟩, -⟩ := strstr_eq_some hfound
    obtain ⟨tail, rfl⟩ := List.head?_eq_some_iff.mp (head?_of_mem_patterns hpattern)
    rfl

/-! ## The choice -/

theorem route_eq_some_iff : route json = some parser ↔ Recognized parser json := by
  have hkeys : Occurs (typeMarker "api_keys") json ↔ Marked .apiKeys json := by
    simp [Marked, messageTypes]
  have hwifi : Occurs (typeMarker "wifi_password") json ∨ Occurs (typeMarker "wifi_config") json ↔
      Marked .wifiPassword json := by
    simp [Marked, messageTypes]
  have hcreds : Occurs (typeMarker "ha_creds") json ↔ Marked .haCreds json := by
    simp [Marked, messageTypes]
  have hendpoint : Occurs (typeMarker "openplc_config") json ∨
      Occurs (typeMarker "opcua_config") json ↔ Marked .opcuaEndpoint json := by
    simp [Marked, messageTypes]
  have hnone : (∀ other, ¬Marked other json) ↔ ¬Marked .apiKeys json ∧ ¬Marked .wifiPassword json ∧
      ¬Marked .haCreds json ∧ ¬Marked .opcuaEndpoint json := by
    constructor
    · exact fun hall => ⟨hall _, hall _, hall _, hall _⟩
    · rintro ⟨hkeys, hwifi, hcreds, hendpoint⟩ other
      cases other <;> assumption
  unfold route Recognized
  simp only [hkeys, hwifi, hcreds, hendpoint, hnone]
  cases parser <;> simp only [testedBefore, List.forall_mem_cons] <;> split_ifs <;> simp_all

/-- What is recognized is longer than the ten bytes that are asked for. -/
theorem Recognized.length (hrecognized : Recognized parser json) (hhead : json.head? = some 0x7B) :
    10 < json.length := by
  have hoccurs {text : Text} (htext : 10 < text.length) (hfound : Occurs text json) :
      10 < json.length := by
    obtain ⟨rest, hrest⟩ := Option.isSome_iff_exists.mp hfound
    obtain ⟨hfront, hsuffix⟩ := strstr_eq_some hrest
    exact htext.trans_le (hfront.length_le.trans hsuffix.length_le)
  rcases hrecognized with ⟨⟨type, htype, hfound⟩, -⟩ | ⟨-, -, hfound⟩
  · refine hoccurs ?_ hfound
    have hlong : ∀ parser, ∀ type ∈ messageTypes parser, 10 < (typeMarker type).length := by
      intro parser
      cases parser <;> decide
    exact hlong parser type htype
  · -- the brace is not part of what is found
    obtain ⟨tail, rfl⟩ := List.head?_eq_some_iff.mp hhead
    obtain ⟨rest, hrest⟩ := Option.isSome_iff_exists.mp hfound
    have hskip : strstr ([0x7B] ++ tail) (ascii "\"password\"") =
        strstr tail (ascii "\"password\"") := strstr_skip tail rfl (by decide)
    rw [List.singleton_append] at hskip
    rw [hskip] at hrest
    obtain ⟨hfront, hsuffix⟩ := strstr_eq_some hrest
    have hlength : 10 ≤ tail.length := hfront.length_le.trans hsuffix.length_le
    rw [List.length_cons]
    omega

/-! ## Main theorem -/

/-- However a JSON object arrives whose type is one of the six: its parser is called, and no other, if
and only if the task recognizes the message from where it takes it to begin. -/
theorem dispatch_iff {members : List (Text × Json)} {type : String}
    (hdocument : Json.IsTextOf text (.object members))
    (_htype : (ascii "type", .string (ascii type)) ∈ members) (_hparser : type ∈ messageTypes parser)
    (hlength : text.length ≤ jsonBufSize - 2) {succeeds : UartParser → Text → Bool}
    {task : UartTask} (hlistening : task.listening = true) (hempty : task.rxBuffer = [])
    {chunks : List Text} {last : Text} (hchunks : (chunks ++ [last]).flatten = text)
    (_hfits : FitAlong 0 (handled true (arrival chunks last))) :
    (parsed (task.run succeeds (arrival chunks last)).2).map Prod.fst = [parser] ↔
      ∃ json, Begins text json ∧ Recognized parser json := by
  obtain ⟨-, -, hparsed⟩ := @UartTask.run_arrival succeeds task hlistening chunks last
  have hshort : ([] ++ (chunks ++ [last]).flatten).length < jsonBufSize - 1 := by
    rw [List.nil_append, hchunks]
    exact Nat.lt_of_le_of_lt hlength (by decide)
  have hnul : text.takeWhile (· ≠ 0) = text := cString_of_noNul hdocument.noNul
  rw [hempty, foldl_keep hshort, List.nil_append, hchunks, hnul] at hparsed
  rw [hparsed]
  unfold passed
  constructor
  · intro hcalled
    cases hfound : findJson text with
    | none =>
        rw [hfound] at hcalled
        simp at hcalled
    | some json =>
        rw [hfound, Option.bind_some] at hcalled
        split at hcalled
        · simp at hcalled
        · cases hroute : route json with
          | none =>
              rw [hroute] at hcalled
              simp at hcalled
          | some other =>
              rw [hroute] at hcalled
              obtain rfl : other = parser := by simpa using hcalled
              exact ⟨json, (findJson_eq_some_iff hdocument).mp hfound, route_eq_some_iff.mp hroute⟩
  · rintro ⟨json, hbegins, hrecognized⟩
    rw [(findJson_eq_some_iff hdocument).mpr hbegins, Option.bind_some,
      if_neg (not_le.mpr (hrecognized.length hbegins.head)), route_eq_some_iff.mpr hrecognized]
    rfl

/-! ## Two messages -/

/-- A string without escapes. -/
theorem quoted_writes {text : Text} (hplain : ∀ byte ∈ text, Json.Plain byte) :
    Json.Writes (.value (.string text)) (Json.quoted text) :=
  .string (.of_plain hplain)

/-- An object whose only member is its type. -/
def typedMessage (blank : Text) : Text :=
  ascii "\x7b\"type\":" ++ blank ++ ascii "\"ha_creds\"\x7d"

theorem typedMessage_isTextOf {blank : Text} (hblank : Json.Blank blank) :
    Json.IsTextOf (typedMessage blank)
      (.object [(ascii "type", .string (ascii "ha_creds"))]) := by
  have hnone : Json.Blank [] := List.forall_mem_nil _
  have hname : Json.StringBody (ascii "type") (ascii "type") := .of_plain (by decide +kernel)
  have hvalue := Json.Writes.element hblank
    (@quoted_writes (ascii "ha_creds") (by decide +kernel)) hnone
  have hobject := Json.Writes.element hnone
    (.object (.lastMember (.member hnone hname hnone hvalue))) hnone
  have htext : [] ++ 0x7B :: (([] ++ Json.quoted (ascii "type") ++ [] ++
      0x3A :: (blank ++ Json.quoted (ascii "ha_creds") ++ [])) ++ [0x7D]) ++ [] =
        typedMessage blank := by
    simp [typedMessage, Json.quoted, ascii]
  rw [htext] at hobject
  exact hobject

private def idleListener : UartTask := { listening := true }

theorem dispatch_iff_compact :
    (parsed (idleListener.run (fun _ _ => true) (arrival [] (typedMessage []))).2).map Prod.fst =
      [.haCreds] := by
  have hnone : Json.Blank [] := List.forall_mem_nil _
  refine (dispatch_iff (typedMessage_isTextOf hnone) List.mem_cons_self
    (show "ha_creds" ∈ messageTypes .haCreds from List.mem_cons_self) (by decide) rfl rfl (by decide)
    (by decide)).mpr ⟨typedMessage [], Or.inl ⟨[], by simp, rfl, by decide⟩, Or.inl ⟨?_, ?_⟩⟩
  · decide +kernel
  · decide +kernel

/-- A blank after the colon, and no parser is called. -/
theorem spacedMessage_ignored :
    Json.IsTextOf (typedMessage [0x20]) (.object [(ascii "type", .string (ascii "ha_creds"))]) ∧
      (typedMessage [0x20]).length ≤ jsonBufSize - 2 ∧
      FitAlong 0 (handled true (arrival [] (typedMessage [0x20]))) ∧
      parsed (idleListener.run (fun _ _ => true) (arrival [] (typedMessage [0x20]))).2 = [] := by
  refine ⟨typedMessage_isTextOf ?_, by decide, by decide, by decide +kernel⟩
  intro byte hbyte
  obtain rfl := List.mem_singleton.mp hbyte
  decide

end CrowPanel.Settings
