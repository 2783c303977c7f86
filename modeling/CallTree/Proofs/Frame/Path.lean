import CallTree.Frame

/-!
# Paths into a call

A call made other calls, and those made calls again.  A path of indices names
one of them all: each index says which call of the one before comes next.

* `Frame.callInduction` — what holds of a call if it holds of all calls that it
  made holds of every call;
* `Frame.call?` — the call at the end of a path;
* `Frame.size` — how many calls and logs a call holds altogether, itself
  included;
* `length_add_size_le` — no path is longer than the size of the call that it
  starts from.
-/

namespace CallTree.Frame

/-- **Induction over the calls of a call.** -/
theorem callInduction {motive : Frame → Prop}
    (step : ∀ frame : Frame, (∀ call ∈ frame.inner, motive call) → motive frame)
    (frame : Frame) : motive frame :=
  step frame fun call _ => callInduction step call
termination_by sizeOf frame
decreasing_by
  rename_i hmem
  have hlist := List.sizeOf_lt_of_mem hmem
  have hframe : sizeOf frame.inner < sizeOf frame := by
    cases frame
    simp only [mk.sizeOf_spec]
    omega
  omega

/-- The call at the end of a path. -/
def call? : List Nat → Frame → Option Frame
  | [], frame => some frame
  | index :: path, frame => (frame.inner[index]?).bind (call? path)

mutual

/-- How many calls and logs a call holds. -/
def size : Frame → Nat
  | ⟨_, _, _, _, _, _, _, _, inner, logs⟩ => 1 + sizeAll inner + logs.length

/-- How many calls and logs several calls hold. -/
def sizeAll : List Frame → Nat
  | [] => 0
  | frame :: frames => size frame + sizeAll frames

end

theorem size_eq (frame : Frame) :
    frame.size = 1 + sizeAll frame.inner + frame.logs.length := by
  cases frame
  rw [size]

theorem length_le_sizeAll (frames : List Frame) : frames.length ≤ sizeAll frames := by
  induction frames with
  | nil => simp [sizeAll]
  | cons frame frames ih =>
      have hpos : 1 ≤ frame.size := by
        rw [size_eq]
        omega
      rw [sizeAll, List.length_cons]
      omega

theorem size_le_sizeAll {frames : List Frame} {frame : Frame} (h : frame ∈ frames) :
    frame.size ≤ sizeAll frames := by
  induction frames with
  | nil => cases h
  | cons first frames ih =>
      rw [sizeAll]
      rcases List.mem_cons.mp h with rfl | hmem
      · omega
      · have hle := ih hmem
        omega

/-- A call holds more than each of the calls that it made. -/
theorem size_lt_of_getElem? {frame call : Frame} {index : Nat}
    (h : frame.inner[index]? = some call) : call.size < frame.size := by
  have hle := size_le_sizeAll (List.mem_of_getElem? h)
  rw [size_eq frame]
  omega

/-- **A path is no longer than the size of the call that it starts from**, less
the size of the call that it leads to. -/
theorem length_add_size_le {path : List Nat} {frame call : Frame}
    (h : frame.call? path = some call) : path.length + call.size ≤ frame.size := by
  induction path generalizing frame with
  | nil =>
      cases h
      simp
  | cons index path ih =>
      obtain ⟨next, hnext, hrest⟩ := Option.bind_eq_some_iff.mp h
      have hlt := size_lt_of_getElem? hnext
      have hle := ih hrest
      rw [List.length_cons]
      omega

/-- The index of a call is less than the size of its caller. -/
theorem index_lt_size {frame call : Frame} {index : Nat}
    (h : frame.inner[index]? = some call) : index < frame.size := by
  obtain ⟨hlt, _⟩ := List.getElem?_eq_some_iff.mp h
  have hle := length_le_sizeAll frame.inner
  rw [size_eq]
  omega

/-- A path goes through the caller of the call that it leads to. -/
theorem call?_append_singleton {frame call : Frame} {path : List Nat} {index : Nat}
    (h : frame.call? (path ++ [index]) = some call) :
    ∃ caller, frame.call? path = some caller ∧ caller.inner[index]? = some call := by
  induction path generalizing frame with
  | nil =>
      obtain ⟨next, hnext, hrest⟩ := Option.bind_eq_some_iff.mp h
      cases hrest
      exact ⟨frame, rfl, hnext⟩
  | cons first path ih =>
      obtain ⟨next, hnext, hrest⟩ := Option.bind_eq_some_iff.mp h
      obtain ⟨caller, hcaller, hcall⟩ := ih hrest
      exact ⟨caller, by simp [call?, hnext, hcaller], hcall⟩

end CallTree.Frame
