import Admission.Proofs.Decision.Counts

set_option autoImplicit false

/-!
# The reason that a client reads

A reason to reject is put on one line, once where procedures gave it and again before it
is published, and cut to what a slot holds.  A line that says something begins with a
character that fits, so nothing of this makes an acceptance of a rejection or leaves it
without a reason.
-/

namespace Admission

/-! ## A text that is cut -/

namespace FixedString

variable {n : Nat}

/-- Four bytes are enough to keep something of a text that is there. -/
theorem cut_ne_empty (hn : 4 ≤ limit n) {s : String} (hs : s ≠ "") : cut n s ≠ "" := by
  intro hempty
  have hkept : kept n s = [] := by
    have hlist := congrArg String.toList hempty
    rwa [cut, String.toList_ofList] at hlist
  cases hcs : s.toList with
  | nil => exact hs (String.toList_inj.mp hcs)
  | cons c cs =>
    have hfits : c.utf8Size ≤ limit n := Nat.le_trans c.utf8Size_le_four hn
    rw [kept, hcs, Text.Utf8.fitting, if_pos hfits] at hkept
    cases hkept

/-- A text that fits is its own longest beginning. -/
theorem LongestFront.eq_of_fits {limit : Nat} {s front : String} (h : LongestFront limit s front)
    (hfits : s.utf8ByteSize ≤ limit) : front = s := by
  have hwhole := h.longest s List.prefix_rfl hfits
  exact String.toList_inj.mp (h.begins.eq_of_length_le hwhole.length_le)

end FixedString

/-! ## What is read -/

/-- A client that is given `text` for a reason is told something: the longest beginning of
the reason, on one line, that a slot holds. -/
structure ReadsAs (reason text : String) : Prop where
  ne_empty : text ≠ ""
  front : FixedString.LongestFront 255 (Text.singleLine reason) text

theorem readsAs_cut (reason : String) :
    ReadsAs reason (FixedString.cut errorMessageCapacity (Text.singleLine reason)) where
  ne_empty :=
    FixedString.cut_ne_empty (by decide) (Text.putOnLine_singleLine reason).ne_empty
  front := FixedString.longestFront_cut errorMessageCapacity _

/-- Whoever is given a reason has something to see. -/
theorem ReadsAs.ink_ne_nil {reason text : String} (h : ReadsAs reason text) :
    Text.ink text.toList ≠ [] := by
  have hne : text.toList ≠ [] := mt String.toList_eq_nil_iff.mp h.ne_empty
  obtain ⟨c, rest, hcons⟩ := List.exists_cons_of_ne_nil hne
  obtain ⟨cutOff, hline⟩ := h.front.begins
  rw [hcons] at hline
  have hc : Text.isBlank c = false :=
    (Text.neat_singleLine reason).head c (by rw [← hline]; rfl)
  rw [hcons]
  simp [Text.ink, hc]

/-- A rejection that is put into a slot is read from it, with its reason. -/
theorem Slot.readsAs_setResult (s : Slot) (reason : String) :
    ∃ text : String, (s.setResult (some (Text.singleLine reason))).result? = some text ∧
      ReadsAs reason text :=
  ⟨_, s.result?_setResult _, readsAs_cut reason⟩

/-- The reason that procedures gave is on one line already. -/
theorem Outcome.map_singleLine_rejection? (o : Outcome) :
    o.rejection?.map Text.singleLine = o.rejection? := by
  cases o <;> simp [Outcome.rejection?]

namespace Shift

variable {settings : ClientAuthSettings} {s : Shift} {slot : Nat} {r : Request} {reason : String}

/-- Whoever looks for the verdict where a poll published a rejection reads its reason. -/
theorem Publishes.readsAs (h : Publishes settings s slot r (some reason))
    (hm : s.desk.host.Maps s.worker.table) {cl : Client} {d : Desk}
    (htable : cl.table = s.worker.table) (hmaps : d.host.Maps cl.table)
    (hslot : d.host.slot cl.table slot = (poll settings s).2.desk.host.slot cl.table slot) :
    ∃ (text : String) (after : Desk),
      cl.collect ⟨slot⟩ d = (.done (some (.abort text)), after) ∧ ReadsAs reason text := by
  obtain ⟨-, hdone, hresult⟩ := h.result?_eq hm
  obtain ⟨hlt, -, -⟩ := of_found_eq_some h.found
  rw [← htable, ← hslot] at hdone hresult
  obtain ⟨after, hrun, -⟩ := Client.collect_spec cl ⟨slot⟩ hmaps (by rw [htable]; exact hlt)
  dsimp only at hrun
  rw [Slot.collect_of_done hdone, hresult] at hrun
  exact ⟨_, after, hrun, readsAs_cut reason⟩

/-- Every message is put on one line, and one that procedures gave is not changed when it is
put on one line again.  Every slot that is given a rejection holds one, with its reason, of
which something can be seen; and where a poll comes to a rejection and its slot takes it, the
poll is done and every client that looks for the verdict there is refused for that reason. -/
theorem reason_reaches_client :
    (∀ raw : String, Text.PutOnLine raw (Text.singleLine raw)) ∧
    (∀ o : Outcome, o.rejection?.map Text.singleLine = o.rejection?) ∧
    (∀ (held : Slot) (reason : String), ∃ text : String,
      (held.setResult (some (Text.singleLine reason))).result? = some text ∧
        ReadsAs reason text) ∧
    (∀ reason text : String, ReadsAs reason text → Text.ink text.toList ≠ []) ∧
    ∀ (settings : ClientAuthSettings) (s : Shift) (slot : Nat) (r : Request) (reason : String),
      s.desk.host.Maps s.worker.table → Publishes settings s slot r (some reason) →
      (poll settings s).1 = .done true ∧
      ∀ (cl : Client) (d : Desk), cl.table = s.worker.table → d.host.Maps cl.table →
        d.host.slot cl.table slot = (poll settings s).2.desk.host.slot cl.table slot →
        ∃ (text : String) (after : Desk),
          cl.collect ⟨slot⟩ d = (.done (some (.abort text)), after) ∧ ReadsAs reason text := by
  refine ⟨Text.putOnLine_singleLine, Outcome.map_singleLine_rejection?,
    Slot.readsAs_setResult, fun _ _ hread => hread.ink_ne_nil, fun settings s slot r reason hm h => ⟨?_, ?_⟩⟩
  · exact (h.result?_eq hm).1
  · intro cl d htable hmaps hslot
    exact h.readsAs hm htable hmaps hslot

end Shift

/-! ## Alice, when the database says too much -/

section Alice

open Traffic

/-- What the database says when it cannot commit. -/
def goneMessage : String :=
  "the disk\r\n\n  of the server is gone \t\n"

/-- The worker comes to alice when nothing is registered, and cannot commit that. -/
def aliceGone : Shift :=
  ⟨loneWorker, { aliceClaimed with host := { aliceClaimed.host with
    catalog := bareCatalog, faults := .failing .commit goneMessage 1 } }⟩

/-- What the poll finds and answers. -/
theorem aliceGone_run :
    aliceGone.desk.host.memory.segments.length = 1 ∧
      (Shift.poll { mode := .on } aliceGone).2.desk.host.memory.segments.length = 1 ∧
      Shift.found loneWorker (aliceGone.desk.host.slot lone) =
        some (0, (alices 0).request 1) ∧
      (Shift.decide { mode := .on } ((alices 0).request 1)
        (Shift.takePending aliceGone).2).1.value? = some (some goneMessage) ∧
      (((Shift.decide { mode := .on } ((alices 0).request 1)
        (Shift.takePending aliceGone).2).2.desk.host.slot lone 0).answer?
          ((alices 0).request 1) (some (Text.singleLine goneMessage))).isSome ∧
      Text.singleLine goneMessage = "the disk of the server is gone" := by
  decide +kernel

/-- Alice reads all of it on one line. -/
theorem Shift.reason_reaches_client_alice :
    Shift.Publishes { mode := .on } aliceGone 0 ((alices 0).request 1) (some goneMessage) ∧
      ∃ after : Desk,
        aliceClient.collect ⟨0⟩ (Shift.poll { mode := .on } aliceGone).2.desk =
          (.done (some (.abort "the disk of the server is gone")), after) := by
  obtain ⟨hbefore, hafter, hfound, hanswer, htaken, hline⟩ := aliceGone_run
  have hvalid : lone.layout.Valid := by decide
  have hpublishes : Shift.Publishes { mode := .on } aliceGone 0 ((alices 0).request 1)
      (some goneMessage) := ⟨hfound, Ending.value?_eq_some_iff.mp hanswer, htaken⟩
  refine ⟨hpublishes, ?_⟩
  obtain ⟨-, -, -, -, hpolls⟩ := Shift.reason_reaches_client
  obtain ⟨-, hreads⟩ := hpolls { mode := .on } aliceGone 0 ((alices 0).request 1) goneMessage
    ⟨by rw [hbefore]; exact Nat.zero_lt_one, hvalid⟩ hpublishes
  obtain ⟨text, after, hcollect, hread⟩ := hreads aliceClient
    (Shift.poll { mode := .on } aliceGone).2.desk rfl
    ⟨by rw [hafter]; exact Nat.zero_lt_one, hvalid⟩ rfl
  obtain rfl : text = "the disk of the server is gone" := by
    rw [← hline]
    exact hread.front.eq_of_fits (by rw [hline]; decide)
  exact ⟨after, hcollect⟩

end Alice

end Admission
