import ElementSearch.Locator.Classify
import ElementSearch.Proofs.Value.Named

/-! Classification without filters.
Nothing is refused unless a kind is demanded: every value is some locator, or it would have to be
written out as a text and holds a whole number with too many digits. -/

namespace ElementSearch.LocatorOf

open Value

theorem ofWritten_eq_ok {fallback : Kind} {v : Value} {l : Locator}
    (read : ofWritten [] fallback v = .ok l) : ∃ s, v.inspect = .ok s ∧ ofText fallback s = l := by
  obtain ⟨s, written, same⟩ := Outcome.bind_eq_ok read
  rw [Filter.applyAll_nil] at same
  exact ⟨s, written, Except.ok.inj same⟩

theorem ofWritten_eq_error {fallback : Kind} {v : Value} {fault : Fault}
    (failed : ofWritten [] fallback v = .error fault) : v.inspect = .error fault := by
  rcases Outcome.bind_eq_error failed with unwritten | ⟨s, _, impossible⟩
  · exact unwritten
  · rw [Filter.applyAll_nil] at impossible
    cases impossible

variable {fault : Fault}

mutual

theorem longNumber_of_classify (fallback : Kind) :
    (v : Value) → classify [] fallback false v = .error fault → fault = .longNumber ∧ ¬v.Spelled
  | .locator l, failed => by
    rw [classify_locator] at failed
    cases failed
  | .null, failed => by cases failed
  | .text _, failed => by
    simp only [classify, Filter.applyAll_nil] at failed
    cases failed
  | .dict entries, failed => by
    rw [classify] at failed
    rcases Outcome.bind_eq_error failed with first | ⟨head, _, rest⟩
    · obtain ⟨long, entry, mem, unspelled⟩ := longNumber_of_headOf entries first
      exact ⟨long, fun all => unspelled (spelled_dict_iff.mp all entry mem).2⟩
    · cases head <;> cases rest
  | .bool _, failed | .int _, failed | .float _, failed | .list _, failed | .tuple _, failed => by
    rw [classify] at failed
    have unwritten := ofWritten_eq_error failed
    exact ⟨longNumber_of_inspect _ unwritten, not_spelled unwritten⟩

theorem longNumber_of_headOf :
    (entries : List (Value × Value)) → headOf [] entries = .error fault →
      fault = .longNumber ∧ ∃ entry ∈ entries, ¬entry.2.Spelled
  | [], failed => by cases failed
  | (key, value) :: rest, failed => by
    unfold headOf at failed
    split at failed
    · obtain ⟨long, entry, mem, unspelled⟩ := longNumber_of_headOf rest failed
      exact ⟨long, entry, List.mem_cons_of_mem _ mem, unspelled⟩
    split at failed
    · cases failed
    split at failed
    · have own : fault = .longNumber ∧ ¬value.Spelled := by
        split at failed
        · rename_i items
          rcases Outcome.bind_eq_error failed with part | ⟨_, _, done⟩
          · obtain ⟨long, x, mem, unspelled⟩ := longNumber_of_frames items part
            exact ⟨long, fun all => unspelled (spelled_list_iff.mp all x mem)⟩
          · cases done
        · rename_i items
          rcases Outcome.bind_eq_error failed with part | ⟨_, _, done⟩
          · obtain ⟨long, x, mem, unspelled⟩ := longNumber_of_frames items part
            exact ⟨long, fun all => unspelled (spelled_tuple_iff.mp all x mem)⟩
          · cases done
        · rcases Outcome.bind_eq_error failed with part | ⟨_, _, done⟩
          · exact longNumber_of_classify .css value part
          · cases done
      exact ⟨own.1, (key, value), List.mem_cons_self, own.2⟩
    · cases failed
    · cases failed
    · cases failed

theorem longNumber_of_frames :
    (items : List Value) → frames [] items = .error fault →
      fault = .longNumber ∧ ∃ x ∈ items, ¬x.Spelled
  | [], failed => by cases failed
  | x :: xs, failed => by
    rcases Outcome.bind_eq_error failed with first | ⟨_, _, rest⟩
    · obtain ⟨long, unspelled⟩ := longNumber_of_classify .css x first
      exact ⟨long, x, List.mem_cons_self, unspelled⟩
    rcases Outcome.bind_eq_error rest with others | ⟨_, _, done⟩
    · obtain ⟨long, y, mem, unspelled⟩ := longNumber_of_frames xs others
      exact ⟨long, y, List.mem_cons_of_mem x mem, unspelled⟩
    · cases done

end

theorem classify_of_spelled (fallback : Kind) {v : Value} (spelled : v.Spelled) :
    ∃ l, classify [] fallback false v = .ok l := by
  cases read : classify [] fallback false v with
  | ok l => exact ⟨l, rfl⟩
  | error fault => exact absurd spelled (longNumber_of_classify fallback v read).2

theorem frames_of_spelled {items : List Value} (spelled : ∀ x ∈ items, x.Spelled) :
    ∃ members, frames [] items = .ok members := by
  cases read : frames [] items with
  | ok members => exact ⟨members, rfl⟩
  | error fault =>
    obtain ⟨_, x, mem, unspelled⟩ := longNumber_of_frames items read
    exact absurd (spelled x mem) unspelled

end ElementSearch.LocatorOf
