import Sluice.Proofs.Control.Winner

/-!
# Writing the winners

`Candidate.writeAll` goes through the winners and writes one target after the other, and each
write looks at the state that the writes before it left. Because no two winners are for the same
link, none of them sees what another one wrote: **all entries are those of the state before the
first write**, each link that is named has its new target afterwards, and nothing else has
changed (`writeAll_written`).

What can be written is a matter of the action and the number of links only (`IsWritable`), so
it stays writable while others are written.
-/

set_option autoImplicit false

namespace Sluice

variable {α : Type}

/-- An action that can be written: it is on the status or the setting of a link that there
is. -/
def Action.IsWritable (s : State α) (a : Action α) : Prop :=
  (a.attr = .status ∨ a.attr = .setting) ∧ a.link < s.links.length

namespace State

def withTarget (s : State α) (i : Nat) (x : α) : State α :=
  { s with links := s.links.modify i fun l => { l with targetSetting := x } }

theorem link?_eq_ok {s : State α} {i : Nat} {l : Link α} (h : s.links[i]? = some l) :
    s.link? i = .ok l := by
  unfold link?
  rw [h]

theorem target_eq_ok {s : State α} {i : Nat} {l : Link α} (h : s.links[i]? = some l) :
    s.target i = .ok l.targetSetting := by
  unfold target
  rw [link?_eq_ok h]
  rfl

theorem linkType_eq_ok {s : State α} {i : Nat} {l : Link α} (h : s.links[i]? = some l) :
    s.linkType i = .ok l.type := by
  unfold linkType
  rw [link?_eq_ok h]
  rfl

@[simp] theorem length_links_withTarget (s : State α) (i : Nat) (x : α) :
    (s.withTarget i x).links.length = s.links.length := by
  simp [withTarget]

theorem links_withTarget_of_ne (s : State α) {i j : Nat} (x : α) (h : i ≠ j) :
    (s.withTarget i x).links[j]? = s.links[j]? := by
  simp [withTarget, h]

theorem links_withTarget_self (s : State α) {i : Nat} {l : Link α} (x : α)
    (h : s.links[i]? = some l) :
    (s.withTarget i x).links[i]? = some { l with targetSetting := x } := by
  simp [withTarget, h]

end State

variable [Scalar α]

namespace Candidate

/-- What some candidates leave behind when all of them are written. -/
structure Written (s : State α) (cs : List (Candidate α)) (s' : State α)
    (committed : List (Committed α)) : Prop where
  links : committed.map Committed.link = cs.map link
  /-- Each entry is the one of its candidate in the state before the first write. -/
  entry : ∀ k ∈ committed, ∃ c ∈ cs, ∃ l, s.links[c.link]? = some l ∧
    k = c.committed l.targetSetting
  written : ∀ c ∈ cs, ∀ l, s.links[c.link]? = some l →
    s'.links[c.link]? = some { l with targetSetting := c.value }
  kept : ∀ i, (∀ c ∈ cs, c.link ≠ i) → s'.links[i]? = s.links[i]?
  length : s'.links.length = s.links.length
  rest : s' = { s with links := s'.links }

theorem write_eq {s : State α} {c : Candidate α} (h : c.action.IsWritable s) :
    ∃ l, s.links[c.link]? = some l ∧
      c.write s = .ok (s.withTarget c.link c.value, c.committed l.targetSetting) := by
  obtain ⟨hattr, hlink⟩ := h
  refine ⟨s.links[c.action.link], List.getElem?_eq_getElem hlink, ?_⟩
  have htarget : s.target c.action.link = .ok s.links[c.action.link].targetSetting :=
    State.target_eq_ok (List.getElem?_eq_getElem hlink)
  have hset : s.setTarget c.action.link c.action.attr c.value =
      .ok (s.withTarget c.link c.value) := by
    rw [State.setTarget, if_pos hattr, if_pos hlink]
    rfl
  rw [write, htarget]
  show (s.setTarget c.action.link c.action.attr c.value >>= _) = _
  rw [hset]
  rfl

/-- Candidates for different links that can be written are all written. -/
theorem writeAll_written {s : State α} {cs : List (Candidate α)}
    (hw : ∀ c ∈ cs, c.action.IsWritable s) (hnd : (cs.map link).Nodup) :
    ∃ s' committed, writeAll s cs = (s', .ok committed) ∧ Written s cs s' committed := by
  induction cs generalizing s with
  | nil => exact ⟨s, [], rfl, ⟨rfl, by simp, by simp, fun _ _ => rfl, rfl, rfl⟩⟩
  | cons c rest ih =>
    obtain ⟨hc, hrest⟩ := List.nodup_cons.mp hnd
    obtain ⟨l, hl, hwrite⟩ := write_eq (hw c List.mem_cons_self)
    have hne : ∀ d ∈ rest, c.link ≠ d.link := fun d hd heq =>
      hc (heq ▸ List.mem_map_of_mem hd)
    have hw' : ∀ d ∈ rest, d.action.IsWritable (s.withTarget c.link c.value) := by
      intro d hd
      refine ⟨(hw d (List.mem_cons_of_mem c hd)).1, ?_⟩
      rw [State.length_links_withTarget]
      exact (hw d (List.mem_cons_of_mem c hd)).2
    obtain ⟨s', committed, hall, hwr⟩ := ih hw' hrest
    -- the links of the other candidates are still as they were
    have hsame : ∀ d ∈ rest, (s.withTarget c.link c.value).links[d.link]? = s.links[d.link]? :=
      fun d hd => s.links_withTarget_of_ne c.value (hne d hd)
    refine ⟨s', c.committed l.targetSetting :: committed, ?_, ?_, ?_, ?_, ?_, ?_, ?_⟩
    · rw [writeAll, hwrite]
      simp only [hall]
      rfl
    · rw [List.map_cons, List.map_cons, hwr.links]
      rfl
    · intro k hk
      rcases List.mem_cons.mp hk with rfl | hk
      · exact ⟨c, List.mem_cons_self, l, hl, rfl⟩
      · obtain ⟨d, hd, m, hm, rfl⟩ := hwr.entry k hk
        exact ⟨d, List.mem_cons_of_mem c hd, m, (hsame d hd).symm.trans hm, rfl⟩
    · intro d hd k hk
      rcases List.mem_cons.mp hd with rfl | hd
      · obtain rfl : l = k := Option.some.inj (hl.symm.trans hk)
        rw [hwr.kept d.link fun e he => (hne e he).symm]
        exact s.links_withTarget_self d.value hk
      · exact hwr.written d hd k ((hsame d hd).trans hk)
    · intro i hi
      rw [hwr.kept i fun d hd => hi d (List.mem_cons_of_mem c hd)]
      exact s.links_withTarget_of_ne c.value (hi c List.mem_cons_self)
    · rw [hwr.length, State.length_links_withTarget]
    · rw [hwr.rest]
      rfl

end Candidate

end Sluice
