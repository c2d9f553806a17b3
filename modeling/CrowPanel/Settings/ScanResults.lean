import CrowPanel.DataModel.Types
import CrowPanel.Library.CText
import Mathlib.Data.List.Dedup
import Mathlib.Data.List.Sort

/-!
# The scan results of the portal

`refresh_scan_results` scans, sorts the records of the driver by their signal strength and keeps the
first record of each network until the table is full.

`qsort` is not stable, so it is a parameter: some function that orders the records as the comparison
says.

## Strategy

`Staged` is what the loop keeps between the records it has looked at and the entries it has made.
It ends with no record left or with a full table, and the records that are left are no stronger than
those before them (`stageRecords_staged`).
-/

namespace CrowPanel.Settings

open Library

/-- `wifi_auth_mode_t`, as far as the portal tells the modes apart. -/
inductive ScanAuthMode where
  | openNetwork
  | wep
  | wpaPsk
  | wpa2Psk
  | wpaWpa2Psk
  | wpa2Enterprise
  | wpa3Psk
  | wpa2Wpa3Psk
  | other (mode : ℕ)
  deriving DecidableEq

/-- The fields of `wifi_ap_record_t` that the portal reads. -/
structure ApRecord where
  ssid : CharArray 33
  rssi : ℤ
  authmode : ScanAuthMode
  deriving DecidableEq

/-- `portal_scan_result_t` -/
structure PortalScanResult where
  ssid : CharArray 33
  rssi : ℤ
  authmode : ScanAuthMode
  deriving DecidableEq

/-- `MAX_PORTAL_SCAN_RESULTS` -/
abbrev maxPortalScanResults : ℕ := 20

/-- `MAX_PORTAL_SCAN_RECORDS` -/
abbrev maxPortalScanRecords : ℕ := 40

/-- `compare_scan_records_by_rssi_desc` -/
def compareScanRecordsByRssiDesc (lhs rhs : ApRecord) : ℤ :=
  rhs.rssi - lhs.rssi

/-- `qsort` with this comparison; records that compare equal may come in any order. -/
structure ScanSort where
  qsort : List ApRecord → List ApRecord
  perm : ∀ records, (qsort records).Perm records
  ordered : ∀ records, (qsort records).Pairwise fun lhs rhs =>
    compareScanRecordsByRssiDesc lhs rhs ≤ 0

/-- Sorting by insertion is one such `qsort`. -/
def insertionScanSort : ScanSort where
  qsort := List.insertionSort fun lhs rhs => compareScanRecordsByRssiDesc lhs rhs ≤ 0
  perm := List.perm_insertionSort _
  ordered := by
    have htotal : Std.Total fun lhs rhs => compareScanRecordsByRssiDesc lhs rhs ≤ 0 := by
      refine ⟨fun lhs rhs => ?_⟩
      simp only [compareScanRecordsByRssiDesc]
      omega
    have htrans : IsTrans ApRecord fun lhs rhs => compareScanRecordsByRssiDesc lhs rhs ≤ 0 := by
      refine ⟨fun first second third => ?_⟩
      simp only [compareScanRecordsByRssiDesc]
      omega
    exact List.pairwise_insertionSort _

/-- `scan_results_have_ssid` -/
def scanResultsHaveSsid (results : List PortalScanResult) (ssid : CharArray 33) : Bool :=
  results.any fun result => result.ssid.text = ssid.text

/-- What is stored of a record. -/
def ApRecord.result (record : ApRecord) : PortalScanResult where
  ssid := .ofText 33 record.ssid.text
  rssi := record.rssi
  authmode := record.authmode

/-- The loop of `refresh_scan_results`. -/
def stageRecords (staged : List PortalScanResult) : List ApRecord → List PortalScanResult
  | [] => staged
  | record :: records =>
      if maxPortalScanResults ≤ staged.length then staged
      else if record.ssid.text = [] then stageRecords staged records
      else if scanResultsHaveSsid staged record.ssid then stageRecords staged records
      else stageRecords (staged ++ [record.result]) records

/-- What the calls of `refresh_scan_results` return: whether there is a mutex and memory for the
records, and the answers of the driver, which is asked for a number of records. -/
structure ScanCalls where
  mutex : Bool := true
  scanStart : EspErr := .ok
  apNum : EspErr × ℕ
  allocated : Bool := true
  apRecords : ℕ → EspErr × List ApRecord

/-- `refresh_scan_results`; the table is the list of the stored results. -/
def refreshScanResults (sort : ScanSort) (calls : ScanCalls) (table : List PortalScanResult) :
    EspErr × List PortalScanResult :=
  if calls.mutex = false then (.noMem, table)
  else if calls.scanStart ≠ .ok then (calls.scanStart, table)
  else
    let (err, apNum) := calls.apNum
    if err ≠ .ok then (err, table)
    else if apNum = 0 then (.ok, [])
    else if calls.allocated = false then (.noMem, table)
    else
      let (err, records) := calls.apRecords (min apNum maxPortalScanRecords)
      if err ≠ .ok then (err, table)
      else (.ok, stageRecords [] (sort.qsort records))

/-- The records that the driver returns; it is not asked for them if there are none. -/
def ScanCalls.records (calls : ScanCalls) : List ApRecord :=
  if calls.apNum.2 = 0 then [] else (calls.apRecords (min calls.apNum.2 maxPortalScanRecords)).2

/-! ## What is to be stored -/

/-- The names of the networks, without the hidden ones. -/
def networkNames (records : List ApRecord) : List (CharArray 33) :=
  ((records.map ApRecord.ssid).filter fun ssid => ssid.text ≠ []).dedup

/-- The results are the strongest networks of the records, each by its strongest record. -/
structure Refreshed (records : List ApRecord) (results : List PortalScanResult) : Prop where
  named : ∀ result ∈ results, result.ssid.text ≠ []
  distinct : (results.map PortalScanResult.ssid).Nodup
  ordered : results.Pairwise fun first second => second.rssi ≤ first.rssi
  complete : (networkNames records).length ≤ maxPortalScanResults →
    ∀ ssid, ssid ∈ results.map PortalScanResult.ssid ↔ ssid ∈ networkNames records
  full : maxPortalScanResults < (networkNames records).length →
    results.length = maxPortalScanResults ∧
      ∀ record ∈ records, record.ssid.text ≠ [] →
        record.ssid ∉ results.map PortalScanResult.ssid →
          ∀ result ∈ results, record.rssi ≤ result.rssi
  strongest : ∀ result ∈ results, ∃ record ∈ records, record.ssid = result.ssid ∧
    record.rssi = result.rssi ∧ record.authmode = result.authmode ∧
      ∀ other ∈ records, other.ssid = result.ssid → other.rssi ≤ record.rssi

/-! ## The loop -/

/-- The entries made of the records that have been looked at. -/
structure Staged (seen : List ApRecord) (staged : List PortalScanResult) : Prop where
  sublist : staged.Sublist (seen.map ApRecord.result)
  named : ∀ result ∈ staged, result.ssid.text ≠ []
  distinct : (staged.map PortalScanResult.ssid).Nodup
  complete : ∀ record ∈ seen, record.ssid.text ≠ [] →
    record.ssid ∈ staged.map PortalScanResult.ssid
  strongest : ∀ result ∈ staged, ∀ record ∈ seen, record.ssid = result.ssid →
    record.rssi ≤ result.rssi
  fits : staged.length ≤ maxPortalScanResults

@[simp] theorem result_ssid (record : ApRecord) : record.result.ssid = record.ssid :=
  CharArray.ofText_self record.ssid

theorem scanResultsHaveSsid_iff {results : List PortalScanResult} {ssid : CharArray 33} :
    scanResultsHaveSsid results ssid = true ↔ ssid ∈ results.map PortalScanResult.ssid := by
  simp only [scanResultsHaveSsid, List.any_eq_true, decide_eq_true_eq, List.mem_map]
  constructor
  · rintro ⟨result, hmem, htext⟩
    exact ⟨result, hmem, CharArray.ext_text htext⟩
  · rintro ⟨result, hmem, rfl⟩
    exact ⟨result, hmem, rfl⟩

variable {seen records : List ApRecord} {staged : List PortalScanResult} {record : ApRecord}

/-- The strength does not grow along sorted records. -/
abbrev Descending (records : List ApRecord) : Prop :=
  records.Pairwise fun first second => second.rssi ≤ first.rssi

/-- An entry is no weaker than the records after the ones looked at. -/
theorem Staged.rssi_le (hstaged : Staged seen staged) (hsorted : Descending (seen ++ records)) :
    ∀ result ∈ staged, ∀ record ∈ records, record.rssi ≤ result.rssi := by
  intro result hresult record hrecord
  obtain ⟨made, hmade, rfl⟩ := List.mem_map.mp (hstaged.sublist.subset hresult)
  exact (List.pairwise_append.mp hsorted).2.2 made hmade record hrecord

/-- A record for which no entry is made. -/
theorem Staged.skip (hstaged : Staged seen staged)
    (hsorted : Descending (seen ++ record :: records))
    (hknown : record.ssid.text ≠ [] → record.ssid ∈ staged.map PortalScanResult.ssid) :
    Staged (seen ++ [record]) staged where
  sublist := by
    rw [List.map_append]
    exact hstaged.sublist.trans (List.sublist_append_left _ _)
  named := hstaged.named
  distinct := hstaged.distinct
  complete := List.forall_mem_append.mpr
    ⟨hstaged.complete, List.forall_mem_singleton.mpr hknown⟩
  strongest result hresult := List.forall_mem_append.mpr ⟨hstaged.strongest result hresult,
    List.forall_mem_singleton.mpr fun _ =>
      hstaged.rssi_le hsorted result hresult record List.mem_cons_self⟩
  fits := hstaged.fits

/-- A record that makes the first entry for its network. -/
theorem Staged.add (hstaged : Staged seen staged)
    (hsorted : Descending (seen ++ record :: records))
    (hnamed : record.ssid.text ≠ []) (hnew : record.ssid ∉ staged.map PortalScanResult.ssid)
    (hroom : staged.length < maxPortalScanResults) :
    Staged (seen ++ [record]) (staged ++ [record.result]) where
  sublist := by
    rw [List.map_append]
    exact hstaged.sublist.append (List.Sublist.refl _)
  named := List.forall_mem_append.mpr ⟨hstaged.named, by simpa using hnamed⟩
  distinct := by
    rw [List.map_append, List.map_singleton, result_ssid, ← List.concat_eq_append]
    exact hstaged.distinct.concat hnew
  complete := by
    rw [List.map_append]
    refine List.forall_mem_append.mpr ⟨fun other hother hname =>
      List.mem_append_left _ (hstaged.complete other hother hname), ?_⟩
    exact List.forall_mem_singleton.mpr fun _ => List.mem_append_right _ (by simp)
  strongest := by
    refine List.forall_mem_append.mpr ⟨fun result hresult => ?_, List.forall_mem_singleton.mpr ?_⟩
    · exact List.forall_mem_append.mpr ⟨hstaged.strongest result hresult,
        List.forall_mem_singleton.mpr fun _ =>
          hstaged.rssi_le hsorted result hresult record List.mem_cons_self⟩
    · -- no record of this network has been seen before
      refine List.forall_mem_append.mpr ⟨fun other hother hsame => ?_,
        List.forall_mem_singleton.mpr fun _ => le_rfl⟩
      rw [result_ssid] at hsame
      exact absurd (hsame ▸ hstaged.complete other hother (hsame ▸ hnamed)) hnew
  fits := by
    rw [List.length_append, List.length_singleton]
    omega

/-- The loop ends with no record left, or with a full table. -/
theorem stageRecords_staged (hstaged : Staged seen staged)
    (hsorted : Descending (seen ++ records)) :
    ∃ looked left, seen ++ records = looked ++ left ∧
      Staged looked (stageRecords staged records) ∧
      (left = [] ∨ (stageRecords staged records).length = maxPortalScanResults) := by
  induction records generalizing seen staged with
  | nil => exact ⟨seen, [], rfl, hstaged, .inl rfl⟩
  | cons record records ih =>
      have hnext : Descending ((seen ++ [record]) ++ records) := by
        simpa only [Descending, List.append_assoc, List.singleton_append] using hsorted
      have hsplit : seen ++ record :: records = (seen ++ [record]) ++ records := by
        rw [List.append_assoc, List.singleton_append]
      rw [stageRecords]
      split
      · next hfull =>
          exact ⟨seen, record :: records, rfl, hstaged, .inr (le_antisymm hstaged.fits hfull)⟩
      · next hroom =>
          rw [hsplit]
          split
          · next hhidden =>
              exact ih (hstaged.skip hsorted fun hnamed => absurd hhidden hnamed) hnext
          · next hnamed =>
              split
              · next hknown =>
                  exact ih (hstaged.skip hsorted fun _ => scanResultsHaveSsid_iff.mp hknown) hnext
              · next hunknown =>
                  exact ih (hstaged.add hsorted hnamed (mt scanResultsHaveSsid_iff.mpr hunknown)
                    (Nat.lt_of_not_le hroom)) hnext

/-! ## The finished table -/

theorem mem_networkNames {records : List ApRecord} {ssid : CharArray 33} :
    ssid ∈ networkNames records ↔ ∃ record ∈ records, record.ssid = ssid ∧ ssid.text ≠ [] := by
  simp only [networkNames, List.mem_dedup, List.mem_filter, List.mem_map, decide_eq_true_eq]
  constructor
  · rintro ⟨⟨record, hrecord, hssid⟩, hnamed⟩
    exact ⟨record, hrecord, hssid, hnamed⟩
  · rintro ⟨record, hrecord, hssid, hnamed⟩
    exact ⟨⟨record, hrecord, hssid⟩, hnamed⟩

/-- The loop has looked at some of the sorted records and stopped at the end or at a full table. -/
structure Finished (records looked left : List ApRecord)
    (results : List PortalScanResult) : Prop where
  split : records.Perm (looked ++ left)
  sorted : Descending (looked ++ left)
  staged : Staged looked results
  stopped : left = [] ∨ results.length = maxPortalScanResults

namespace Finished

variable {records looked left : List ApRecord} {results : List PortalScanResult}

theorem mem_or (hfinished : Finished records looked left results) {record : ApRecord}
    (hrecord : record ∈ records) : record ∈ looked ∨ record ∈ left :=
  List.mem_append.mp (hfinished.split.subset hrecord)

theorem of_looked (hfinished : Finished records looked left results) {record : ApRecord}
    (hrecord : record ∈ looked) : record ∈ records :=
  hfinished.split.symm.subset (List.mem_append_left _ hrecord)

/-- Every entry is made of a record. -/
theorem made (hfinished : Finished records looked left results) {result : PortalScanResult}
    (hresult : result ∈ results) : ∃ record ∈ records, record.result = result := by
  obtain ⟨record, hlooked, hmade⟩ :=
    List.mem_map.mp (hfinished.staged.sublist.subset hresult)
  exact ⟨record, hfinished.of_looked hlooked, hmade⟩

theorem subset_names (hfinished : Finished records looked left results) :
    results.map PortalScanResult.ssid ⊆ networkNames records := by
  intro ssid hssid
  obtain ⟨result, hresult, rfl⟩ := List.mem_map.mp hssid
  obtain ⟨record, hrecord, rfl⟩ := hfinished.made hresult
  exact mem_networkNames.mpr
    ⟨record, hrecord, (result_ssid record).symm, hfinished.staged.named _ hresult⟩

/-- A network without an entry is among the records that were not looked at. -/
theorem mem_left (hfinished : Finished records looked left results) {record : ApRecord}
    (hrecord : record ∈ records) (hnamed : record.ssid.text ≠ [])
    (habsent : record.ssid ∉ results.map PortalScanResult.ssid) : record ∈ left := by
  rcases hfinished.mem_or hrecord with hlooked | hleft
  · exact absurd (hfinished.staged.complete record hlooked hnamed) habsent
  · exact hleft

theorem names_subset (hfinished : Finished records looked [] results) :
    networkNames records ⊆ results.map PortalScanResult.ssid := by
  intro ssid hssid
  obtain ⟨record, hrecord, rfl, hnamed⟩ := mem_networkNames.mp hssid
  by_contra habsent
  exact List.not_mem_nil (hfinished.mem_left hrecord hnamed habsent)

theorem complete (hfinished : Finished records looked left results)
    (hfew : (networkNames records).length ≤ maxPortalScanResults) (ssid : CharArray 33) :
    ssid ∈ results.map PortalScanResult.ssid ↔ ssid ∈ networkNames records := by
  refine ⟨fun hssid => hfinished.subset_names hssid, fun hssid => ?_⟩
  rcases hfinished.stopped with rfl | hfull
  · exact hfinished.names_subset hssid
  · -- as many entries as there are networks at most, and all of them different networks
    have hsub : (results.map PortalScanResult.ssid).Subperm (networkNames records) :=
      List.subperm_of_subset hfinished.staged.distinct hfinished.subset_names
    have hlength : (networkNames records).length ≤ (results.map PortalScanResult.ssid).length := by
      rw [List.length_map, hfull]
      exact hfew
    exact (hsub.perm_of_length_le hlength).symm.subset hssid

theorem length_eq (hfinished : Finished records looked left results)
    (hmany : maxPortalScanResults < (networkNames records).length) :
    results.length = maxPortalScanResults := by
  rcases hfinished.stopped with rfl | hfull
  · have hsub : (networkNames records).Subperm (results.map PortalScanResult.ssid) :=
      List.subperm_of_subset (List.nodup_dedup _) hfinished.names_subset
    have hlength := hsub.length_le
    rw [List.length_map] at hlength
    exact absurd (hlength.trans hfinished.staged.fits) (Nat.not_le_of_lt hmany)
  · exact hfull

theorem rssi_le (hfinished : Finished records looked left results) {result : PortalScanResult}
    (hresult : result ∈ results) {record : ApRecord} (hrecord : record ∈ records)
    (hsame : record.ssid = result.ssid) : record.rssi ≤ result.rssi := by
  rcases hfinished.mem_or hrecord with hlooked | hleft
  · exact hfinished.staged.strongest result hresult record hlooked hsame
  · exact hfinished.staged.rssi_le hfinished.sorted result hresult record hleft

theorem ordered (hfinished : Finished records looked left results) :
    results.Pairwise fun first second => second.rssi ≤ first.rssi := by
  have hlooked : Descending looked := (List.pairwise_append.mp hfinished.sorted).1
  exact (hlooked.map ApRecord.result fun _ _ hle => hle).sublist hfinished.staged.sublist

theorem refreshed (hfinished : Finished records looked left results) :
    Refreshed records results where
  named := hfinished.staged.named
  distinct := hfinished.staged.distinct
  ordered := hfinished.ordered
  complete := hfinished.complete
  full hmany := by
    refine ⟨hfinished.length_eq hmany, fun record hrecord hnamed habsent result hresult => ?_⟩
    exact hfinished.staged.rssi_le hfinished.sorted result hresult record
      (hfinished.mem_left hrecord hnamed habsent)
  strongest result hresult := by
    obtain ⟨record, hrecord, rfl⟩ := hfinished.made hresult
    refine ⟨record, hrecord, (result_ssid record).symm, rfl, rfl, fun other hother hsame => ?_⟩
    exact hfinished.rssi_le hresult hother hsame

end Finished

/-- What the loop makes of the sorted records. -/
theorem refreshed_stageRecords (sort : ScanSort) (records : List ApRecord) :
    Refreshed records (stageRecords [] (sort.qsort records)) := by
  have hsorted : Descending ([] ++ sort.qsort records) :=
    (sort.ordered records).imp fun hle => by
      simpa [compareScanRecordsByRssiDesc] using hle
  have hnothing : Staged [] [] := by
    constructor <;> simp
  obtain ⟨looked, left, hsplit, hstaged, hstopped⟩ := stageRecords_staged hnothing hsorted
  rw [List.nil_append] at hsplit hsorted
  have hperm : records.Perm (looked ++ left) := hsplit ▸ (sort.perm records).symm
  exact Finished.refreshed ⟨hperm, hsplit ▸ hsorted, hstaged, hstopped⟩

/-- An error leaves the table alone; otherwise the loop has made it from the records. -/
theorem refreshScanResults_cases (sort : ScanSort) (calls : ScanCalls)
    (table : List PortalScanResult) :
    (∃ err, err ≠ .ok ∧ refreshScanResults sort calls table = (err, table)) ∨
      refreshScanResults sort calls table = (.ok, stageRecords [] (sort.qsort calls.records)) := by
  unfold refreshScanResults
  split
  · exact .inl ⟨.noMem, nofun, rfl⟩
  · split
    · next hscan => exact .inl ⟨_, hscan, rfl⟩
    · -- the two questions to the driver and the memory between them
      dsimp only
      split
      · next hnum => exact .inl ⟨_, hnum, rfl⟩
      · split
        · next hnone =>
            have hsorted : sort.qsort [] = [] := (sort.perm []).eq_nil
            rw [ScanCalls.records, if_pos hnone, hsorted]
            exact .inr rfl
        · next hsome =>
            split
            · exact .inl ⟨.noMem, nofun, rfl⟩
            · split
              · next hrecords => exact .inl ⟨_, hrecords, rfl⟩
              · rw [ScanCalls.records, if_neg hsome]
                exact .inr rfl

/-- After `ESP_OK` the table holds the strongest networks of the records; after an error it is the
one before. -/
theorem refreshScanResults_spec (sort : ScanSort) (calls : ScanCalls)
    (table : List PortalScanResult) :
    ((refreshScanResults sort calls table).1 = .ok →
      Refreshed calls.records (refreshScanResults sort calls table).2) ∧
    ((refreshScanResults sort calls table).1 ≠ .ok →
      (refreshScanResults sort calls table).2 = table) := by
  rcases refreshScanResults_cases sort calls table with ⟨err, hfailed, hresult⟩ | hresult
  · rw [hresult]
    exact ⟨fun hok => absurd hok hfailed, fun _ => rfl⟩
  · rw [hresult]
    exact ⟨fun _ => refreshed_stageRecords sort calls.records, fun hfailed => absurd rfl hfailed⟩

/-- Two access points of one network, a hidden one between them, and a network further away. -/
def scanOfTwoNetworks : ScanCalls where
  apNum := (.ok, 4)
  apRecords _ := (.ok, [⟨.ofText 33 (ascii "plant"), -71, .wpa2Psk⟩, ⟨.empty, -52, .openNetwork⟩,
    ⟨.ofText 33 (ascii "guest"), -80, .openNetwork⟩, ⟨.ofText 33 (ascii "plant"), -48, .wpa3Psk⟩])

theorem refreshScanResults_spec_two_networks :
    Refreshed scanOfTwoNetworks.records [⟨.ofText 33 (ascii "plant"), -48, .wpa3Psk⟩,
      ⟨.ofText 33 (ascii "guest"), -80, .openNetwork⟩] ∧
    refreshScanResults insertionScanSort { scanOfTwoNetworks with allocated := false } [] =
      (.noMem, []) := by
  refine ⟨?_, Prod.ext (by decide) ?_⟩
  · have hresults : refreshScanResults insertionScanSort scanOfTwoNetworks [] = (.ok,
        [⟨.ofText 33 (ascii "plant"), -48, .wpa3Psk⟩,
          ⟨.ofText 33 (ascii "guest"), -80, .openNetwork⟩]) := by
      decide +kernel
    have hspec := (refreshScanResults_spec insertionScanSort scanOfTwoNetworks []).1
    rw [hresults] at hspec
    exact hspec rfl
  · exact (refreshScanResults_spec insertionScanSort _ []).2 (by decide)

end CrowPanel.Settings
