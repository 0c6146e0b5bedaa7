import JsonRules.Json.Members
import JsonRules.Settings.Toml.Reader

namespace JsonRules.Settings.Toml

section Changes

variable {entries out : Entries}

theorem sorted_of_openTable? {key : String} (h : Members.Sorted entries)
    (hopen : openTable? key entries = some out) : Members.Sorted out := by
  rw [openTable?] at hopen
  split at hopen
  · cases hopen
    exact Members.sorted_insert h
  · cases hopen
    exact Members.sorted_insert h
  · cases hopen

theorem sorted_of_openNext? {key : String} (h : Members.Sorted entries)
    (hopen : openNext? key entries = some out) : Members.Sorted out := by
  rw [openNext?] at hopen
  split at hopen
  · cases hopen
    exact Members.sorted_insert h
  · cases hopen
    exact Members.sorted_insert h
  · cases hopen

theorem sorted_of_assign? {v : SettingValue} {keys : List String} (h : Members.Sorted entries)
    (hassign : assign? v keys entries = some out) : Members.Sorted out := by
  unfold assign? at hassign
  split at hassign
  · cases hassign
  · split at hassign
    · cases hassign
      exact Members.sorted_insert h
    · cases hassign
  · obtain ⟨node, -, rfl⟩ := Option.map_eq_some_iff.1 hassign
    exact Members.sorted_insert h

/-- A change at a place further down sets one entry here. -/
theorem sorted_of_alterAt? {f : Entries → Option Entries}
    (hf : ∀ {inner after}, Members.Sorted inner → f inner = some after → Members.Sorted after)
    {path : List String} (h : Members.Sorted entries)
    (halter : alterAt? f path entries = some out) : Members.Sorted out := by
  unfold alterAt? at halter
  split at halter
  · exact hf h halter
  · obtain ⟨node, -, rfl⟩ := Option.map_eq_some_iff.1 halter
    exact Members.sorted_insert h

theorem sorted_of_openHeader? {isNext : Bool} {path : List String} (h : Members.Sorted entries)
    (hopen : openHeader? isNext path entries = some out) : Members.Sorted out := by
  obtain ⟨key, -, halter⟩ := Option.bind_eq_some_iff.1 hopen
  cases isNext with
  | true => exact sorted_of_alterAt? sorted_of_openNext? h halter
  | false => exact sorted_of_alterAt? sorted_of_openTable? h halter

end Changes

/-- Each line of a file keeps the keys in order. -/
theorem sorted_of_readLines? {steps : Nat} {current : List String} {entries out : Entries}
    {s : List Char} (h : Members.Sorted entries)
    (hread : readLines? steps current entries s = some out) : Members.Sorted out := by
  induction steps generalizing current entries s with
  | zero => cases hread
  | succ steps ih =>
    obtain ⟨line, -, hline⟩ := Option.bind_eq_some_iff.1 hread
    dsimp only at hline
    split at hline
    · cases hline
      exact h
    · obtain ⟨⟨isNext, path, rest⟩, -, hheader⟩ := Option.bind_eq_some_iff.1 hline
      obtain ⟨opened, hopened, hrest⟩ := Option.bind_eq_some_iff.1 hheader
      exact ih (sorted_of_openHeader? h hopened) hrest
    · obtain ⟨⟨keys, rest⟩, -, hkeys⟩ := Option.bind_eq_some_iff.1 hline
      dsimp only at hkeys
      split at hkeys
      · obtain ⟨⟨v, rest⟩, -, hvalue⟩ := Option.bind_eq_some_iff.1 hkeys
        obtain ⟨assigned, hassigned, hend⟩ := Option.bind_eq_some_iff.1 hvalue
        obtain ⟨rest, -, hrest⟩ := Option.bind_eq_some_iff.1 hend
        exact ih (sorted_of_alterAt? sorted_of_assign? h hassigned) hrest
      · cases hkeys

theorem keys_settings (entries : Entries) :
    Members.keys (settings entries) = Members.keys entries := by
  induction entries with
  | nil => rfl
  | cons entry rest ih => exact congrArg (entry.1 :: ·) ih

/-- What is read from a file is a table with its keys in order, none of them twice. -/
theorem exists_sorted_of_table? {text : String} {v : SettingValue} (h : table? text = some v) :
    ∃ entries : SortedMembers SettingValue, v = .table entries.members := by
  obtain ⟨entries, hread, rfl⟩ := Option.map_eq_some_iff.1 h
  have hempty : Members.Sorted ([] : Entries) := .nil
  have hsorted : Members.Sorted (settings entries) := by
    rw [Members.Sorted, keys_settings]
    exact sorted_of_readLines? hempty hread
  exact ⟨⟨settings entries, hsorted⟩, rfl⟩

end JsonRules.Settings.Toml
