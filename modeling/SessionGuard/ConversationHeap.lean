-- The heap of `conversation`: its array of replies, and a string for each reply. A call that
-- fails frees the array, hands it out all the same, and frees none of the strings; and a
-- string is allocated by the length in UTF-16 units, but filled with UTF-8 bytes.
import SessionGuard.Machine
import SessionGuard.Ledger
import SessionGuard.Checkpass

open machine ledger

namespace session_guard.conversation_heap

open pam_message checkpass unicode

/-! ## The blocks of a call -/

def entry : HeapOp → Entry HeapBlock
  | .callocReply _ => .acquire .reply
  | .callocResp i _ => .acquire (.resp i)
  | .freeResp i => .release (.resp i)
  | .freeReply => .release .reply

/-- What the call allocates and frees. -/
def entries (r : Return) : List (Entry HeapBlock) := r.heap.map entry

/-- The call frees each block that it allocates once, and `*resp` is null or points to a block that
is allocated. -/
def CleanedUp (r : Return) : Prop :=
  (∀ b, .acquire b ∈ entries r → (entries r).count (.release b) = 1) ∧
    ∀ b ∈ r.target, b ∈ balance [] (entries r)

/-- A call that fails could free its array and its strings and hand out a null pointer. -/
example : CleanedUp
    { ret := PAM_CONV_ERR, target := none, resp := [⟨some ⟨3, [97, 98, 0]⟩, PAM_SUCCESS⟩, .zero],
      heap := [.callocReply 2, .callocResp 0 3, .freeResp 0, .freeReply] } := by
  refine ⟨fun b hb => ?_, fun b hb => by cases hb⟩
  simp only [entries, entry, List.map_cons, List.map_nil, List.mem_cons, List.not_mem_nil,
    Entry.acquire.injEq, reduceCtorEq, or_false] at hb
  rcases hb with rfl | rfl <;> decide

/-- The strings of the responses, where the first one has the index `i`. -/
def strings : Nat → List PamResponse → List HeapBlock
  | _, [] => []
  | i, r :: rs => (if r.resp.isSome then [.resp i] else []) ++ strings (i + 1) rs

theorem strings_append (i : Nat) (xs ys : List PamResponse) :
    strings i (xs ++ ys) = strings i xs ++ strings (i + xs.length) ys := by
  induction xs generalizing i with
  | nil => rfl
  | cons x xs ih =>
    rw [List.cons_append, strings, strings, ih, List.length_cons, List.append_assoc]
    congr 3
    omega

/-- An entry as `calloc` leaves it has no string. -/
theorem strings_zero (i : Nat) (rest : List Msg) :
    strings i (rest.map fun _ => .zero) = [] := by
  induction rest generalizing i with
  | nil => rfl
  | cons m ms ih => exact ih (i + 1)

theorem reply_notMem_strings (i : Nat) (rs : List PamResponse) : .reply ∉ strings i rs := by
  induction rs generalizing i with
  | nil => exact List.not_mem_nil
  | cons r rs ih =>
    rw [strings, List.mem_append, not_or]
    refine ⟨?_, ih (i + 1)⟩
    split_ifs <;> simp

/-! ## The calls of a run -/

/-- What a running call has allocated: the array, and the strings of the responses so far. -/
def Allocated (v : Conv) : Prop :=
  v.heap.map entry = (.reply :: strings 0 v.done).map .acquire

/-- What a call has done when it returns: it has allocated the array and the strings, and freed the
array when it fails, and `*resp` points to the array. -/
structure Returned (r : Return) : Prop where
  entries_eq : entries r = (.reply :: strings 0 r.resp).map .acquire ++
    if r.ret = PAM_SUCCESS then [] else [.release .reply]
  target : r.target = some .reply

def Inv (c : Child) : Prop :=
  (∀ r ∈ c.returns, Returned r) ∧
    match c.pc with
    | .conv v => Allocated v
    | .waiting v => Allocated v
    | _ => True

theorem strings_reply (v : Conv) : strings 0 v.reply = strings 0 v.done := by
  rw [Conv.reply, strings_append, strings_zero, List.append_nil]

theorem success_returned {v : Conv} (h : Allocated v) : Returned v.success := by
  refine ⟨?_, rfl⟩
  show v.heap.map entry = _
  rw [h, Conv.success, strings_reply, if_pos rfl, List.append_nil]

/-- The entry of the message that fails is as `calloc` left it, so that no string is freed. -/
theorem failure_returned {v : Conv} (h : Allocated v) : Returned v.failure := by
  have hfrees : ∀ n : Nat, ((List.range n).flatMap fun _ =>
      if PamResponse.zero.resp.isSome then [HeapOp.freeResp v.done.length] else []) = [] := by
    intro n
    simp [PamResponse.zero]
  refine ⟨?_, rfl⟩
  unfold entries Conv.failure
  dsimp only
  rw [hfrees, List.append_nil, List.map_append, h, strings_reply, if_neg (by decide)]
  rfl

theorem next_allocated {v : Conv} (h : Allocated v) : Allocated v.next := by
  unfold Allocated Conv.next
  rw [strings_append, h]
  simp [strings]

theorem answer_allocated {v : Conv} (h : Allocated v) (text : String) :
    Allocated (v.answer text) := by
  unfold Allocated Conv.answer
  rw [List.map_append, h, strings_append]
  simp [strings, entry]

theorem returnWith_inv {c : Child} (hc : ∀ r ∈ c.returns, Returned r) {r : Return}
    (hr : Returned r) : Inv (c.returnWith r) := by
  refine ⟨?_, trivial⟩
  intro r' hr'
  rcases List.mem_append.mp hr' with hold | hnew
  · exact hc r' hold
  · obtain rfl := List.mem_singleton.mp hnew
    exact hr

theorem step_inv {c c1 : Child} {act : Act} {o : List PamEvent} (hc : Inv c)
    (h : c.step act = some (c1, o)) : Inv c1 := by
  obtain ⟨hreturns, hcall⟩ := hc
  cases Child.steps_of_step h with
  | starts ok =>
    refine ⟨hreturns, ?_⟩
    cases ok <;> trivial
  | calls msgs => exact ⟨hreturns, rfl⟩
  | sendFails hpc =>
    rw [hpc] at hcall
    exact returnWith_inv hreturns (failure_returned hcall)
  | @sends v m ms event hpc =>
    rw [hpc] at hcall
    refine ⟨hreturns, ?_⟩
    cases m.isPrompt
    · exact next_allocated hcall
    · exact hcall
  | skips hpc =>
    rw [hpc] at hcall
    exact ⟨hreturns, next_allocated hcall⟩
  | returns hpc =>
    rw [hpc] at hcall
    exact returnWith_inv hreturns (success_returned hcall)
  | receives text hpc =>
    rw [hpc] at hcall
    exact ⟨hreturns, answer_allocated hcall text⟩
  | recvFails hpc =>
    rw [hpc] at hcall
    exact returnWith_inv hreturns (failure_returned hcall)
  | finishes => exact ⟨hreturns, trivial⟩

/-- Every call of every run. -/
theorem run_returned {acts : List Act} {c : Child} {o : List PamEvent}
    (h : run Child.step {} acts = some (c, o)) {r : Return} (hr : r ∈ c.returns) : Returned r := by
  have hinit : Inv {} := ⟨fun r hr => absurd hr List.not_mem_nil, trivial⟩
  have hinv : Inv c := run_inv (I := Inv) (fun c act c1 o1 hc h1 => step_inv hc h1) hinit h
  exact hinv.1 r hr

/-! ## What a call leaves on the heap -/

/-- A call that succeeds hands out its array and the strings. -/
theorem success_leaves {r : Return} (h : Returned r) (hok : r.ret = PAM_SUCCESS) :
    (balance [] (entries r)).Perm (.reply :: strings 0 r.resp) := by
  rw [h.entries_eq, if_pos hok, List.append_nil]
  have hheld := (acquire_all [] (HeapBlock.reply :: strings 0 r.resp)).2
  rwa [List.append_nil] at hheld

/-- A call that fails frees its array once and leaves every string. -/
theorem failure_leaves {r : Return} (h : Returned r) (hfail : r.ret ≠ PAM_SUCCESS) :
    Lawful [] (entries r) ∧ (balance [] (entries r)).Perm (strings 0 r.resp) := by
  have hfirst : (HeapBlock.reply :: strings 0 r.resp).Perm ([.reply] ++ strings 0 r.resp) :=
    List.Perm.refl _
  rw [h.entries_eq, if_neg hfail]
  exact acquire_release hfirst

/-- No call that fails cleans up: `*resp` points to the array that it has freed. -/
theorem no_failed_call_cleans_up {acts : List Act} {c : Child} {o : List PamEvent}
    (h : run Child.step {} acts = some (c, o)) {r : Return} (hr : r ∈ c.returns)
    (hfail : r.ret ≠ PAM_SUCCESS) : ¬ CleanedUp r := by
  rintro ⟨-, htarget⟩
  have hreturned := run_returned h hr
  obtain ⟨-, hleft⟩ := failure_leaves hreturned hfail
  exact reply_notMem_strings 0 r.resp (hleft.mem_iff.mp (htarget .reply hreturned.target))

/-- The user answers the first of two prompts, and the pipe ends before the second answer. -/
def endsAtSecondPrompt : List Act :=
  [.pamStart true,
    .call [⟨.PAM_PROMPT_ECHO_OFF, "Password: "⟩, ⟨.PAM_PROMPT_ECHO_OFF, "Code: "⟩],
    .send true, .recv (some (.PromptReplyEvent true "ab")), .send true, .recv none]

/-- What the call of that run returns. -/
def freedReturn : Return where
  ret := PAM_CONV_ERR
  target := some .reply
  resp := [⟨some ⟨3, [97, 98, 0]⟩, PAM_SUCCESS⟩, .zero]
  heap := [.callocReply 2, .callocResp 0 3, .freeReply]

theorem run_endsAtSecondPrompt :
    run Child.step {} endsAtSecondPrompt =
      some (⟨.stack, [freedReturn]⟩,
        [.PromptRequestEvent true "Password: ", .PromptRequestEvent true "Code: "]) := rfl

/-- The array is freed and handed out, and the string of the first answer is never freed. -/
theorem the_freed_array_is_handed_out :
    ∃ c o, run Child.step {} endsAtSecondPrompt = some (c, o) ∧ freedReturn ∈ c.returns ∧
      freedReturn.ret ≠ PAM_SUCCESS ∧ .acquire (.resp 0) ∈ entries freedReturn ∧
      (entries freedReturn).count (.release (.resp 0)) = 0 ∧
      freedReturn.target = some .reply ∧ .reply ∉ balance [] (entries freedReturn) ∧
      ¬ CleanedUp freedReturn := by
  refine ⟨_, _, run_endsAtSecondPrompt, List.mem_singleton_self _, by decide, by decide,
    by decide, rfl, by decide, ?_⟩
  rintro ⟨-, htarget⟩
  exact absurd (htarget .reply rfl) (by decide)

theorem the_second_prompt_is_not_cleaned_up :
    ∃ c o, run Child.step {} endsAtSecondPrompt = some (c, o) ∧ freedReturn ∈ c.returns ∧
      ¬ CleanedUp freedReturn :=
  ⟨_, _, run_endsAtSecondPrompt, List.mem_singleton_self _,
    no_failed_call_cleans_up run_endsAtSecondPrompt (List.mem_singleton_self _) (by decide)⟩

/-! ## The size of a string -/

/-- The block takes the UTF-8 bytes of the text and a NUL, and what `strcpy` writes stays
inside it. -/
def Fits (text : String) (b : Block) : Prop :=
  (utf8 text).length + 1 ≤ b.size ∧ b.bytes.length ≤ b.size

/-- `strcpy` writes no more than the bytes and a NUL. -/
theorem cString_length_le (bytes : List UInt8) : (cString bytes).length ≤ bytes.length + 1 := by
  rw [cString, List.length_append, List.length_singleton]
  have := (List.takeWhile_sublist (l := bytes) (· ≠ 0)).length_le
  omega

theorem respBlock_fits_iff (text : String) : Fits text (Conv.respBlock text) ↔ IsAscii text := by
  rw [← utf8_length_le_iff]
  have hstrcpy := cString_length_le (utf8 text)
  constructor
  · rintro ⟨hsize, -⟩
    exact Nat.le_of_succ_le_succ hsize
  · intro hle
    refine ⟨Nat.succ_le_succ hle, ?_⟩
    show (cString (utf8 text)).length ≤ utf16Length text + 1
    omega

/-- What `strcpy` writes of a text with no NUL stays inside the block for ASCII texts only. -/
theorem strcpy_stays_inside_iff {text : String} (h : NoNul text) :
    (Conv.respBlock text).bytes.length ≤ (Conv.respBlock text).size ↔ IsAscii text := by
  rw [← utf8_length_le_iff]
  show (cString (utf8 text)).length ≤ utf16Length text + 1 ↔ _
  rw [cString_utf8 h, List.length_append, List.length_singleton]
  exact Nat.add_le_add_iff_right

/-- The call that waits takes a reply into a block where it fits, exactly when the reply is
ASCII. -/
theorem the_reply_fits_iff (v : Conv) (returns : List Return) (text : String) :
    (∃ v' b, Child.step ⟨.waiting v, returns⟩ (.recv (some (.PromptReplyEvent true text))) =
        some (⟨.conv v', returns⟩, []) ∧
      v'.done = v.done ++ [⟨some b, PAM_SUCCESS⟩] ∧
      v'.heap = v.heap ++ [.callocResp v.done.length b.size] ∧ Fits text b) ↔
      IsAscii text := by
  rw [← respBlock_fits_iff]
  constructor
  · rintro ⟨v', b, hstep, hdone, -, hfits⟩
    cases hstep
    have hb := List.append_cancel_left hdone
    cases hb
    exact hfits
  · intro hfits
    exact ⟨v.answer text, Conv.respBlock text, rfl, rfl, rfl, hfits⟩

/-- The word "é" gets two bytes, where three are written. -/
theorem an_accent_does_not_fit :
    ¬ Fits "é" (Conv.respBlock "é") ∧ (Conv.respBlock "é").size = 2 ∧
      (Conv.respBlock "é").bytes = [0xc3, 0xa9, 0] := by
  refine ⟨?_, by decide, by decide⟩
  rintro ⟨hsize, -⟩
  revert hsize
  decide

end session_guard.conversation_heap
