/-
Handlers that come and go.

What a set-up goes over is a copy of the list. At each step the handler that comes
next in the copy is the first that is still mounted, also if it is mounted twice, so
when the copy is used up nothing is left, and all of it is closed. What is mounted
then is new, and has a number above all that were given. So no handler is mounted
and closed, and what was mounted at any time is closed by the next set-up.
-/
import SynthDesk.Log.Rig
import Mathlib.Data.List.Induction

set_option autoImplicit false

namespace SynthDesk.Log

/-- No level weighs less. -/
theorem Level.debug_admits (l : Level) : Level.debug.admits l = true := by
  cases l <;> rfl

namespace Rig

variable {g : Rig} {m : Mount} {f : Fitting} {c : Call} {t : FileTree} {path full : Path}

/-! ## New handlers -/

theorem number_lt_fresh (h : m ∈ g.mounts ++ g.closed) : m.number < g.fresh := by
  rw [fresh]
  generalize g.mounts ++ g.closed = ms at h ⊢
  induction ms with
  | nil => cases h
  | cons n r ih =>
    rw [List.foldr_cons]
    rcases List.mem_cons.mp h with rfl | h
    · omega
    · have hrest := ih h
      omega

/-- A new handler is not there yet, so it comes last. -/
theorem mount_eq (g : Rig) (f : Fitting) :
    g.mount f = { g with mounts := g.mounts ++ [⟨g.fresh, f⟩] } := by
  have hnew : (⟨g.fresh, f⟩ : Mount) ∉ g.mounts := by
    intro h
    exact Nat.lt_irrefl _ (number_lt_fresh (List.mem_append_left _ h))
  rw [mount, add, if_neg hnew]

/-- **What is mounted is not closed.** -/
def Apart (g : Rig) : Prop := ∀ m ∈ g.mounts, m ∉ g.closed

theorem Apart.mount (h : g.Apart) (f : Fitting) : (g.mount f).Apart := by
  rw [mount_eq]
  intro m hm hclosed
  rcases List.mem_append.mp hm with hm | hm
  · exact h m hm hclosed
  · rw [List.mem_singleton.mp hm] at hclosed
    have hlt : g.fresh < g.fresh := number_lt_fresh (List.mem_append_right g.mounts hclosed)
    exact Nat.lt_irrefl _ hlt

/-! ## Taking all down -/

theorem foldl_unmount_close {ms : List Mount} (h : g.mounts = ms) :
    ms.foldl (fun g m => (g.unmount m).close m) g =
      { g with mounts := [], closed := g.closed ++ ms } := by
  induction ms generalizing g with
  | nil => rw [List.foldl_nil, List.append_nil, ← h]
  | cons m r ih =>
    -- What comes next in the copy is what comes first in the list.
    have hrest : ((g.unmount m).close m).mounts = r := by
      rw [close, unmount, h, List.erase_cons_head]
    rw [List.foldl_cons, ih hrest]
    simp only [close, unmount, List.append_assoc, List.singleton_append]

/-- **Nothing is left, and all is closed.** -/
theorem clear_eq (g : Rig) : g.clear = { g with mounts := [], closed := g.closed ++ g.mounts } :=
  foldl_unmount_close rfl

/-! ## The log with a console -/

theorem exists_withConsole_eq (g : Rig) (verbose : Bool) :
    ∃ n, g.withConsole verbose = ⟨[⟨n, .own (.console (consoleLevel verbose))⟩],
      g.closed ++ g.mounts, .debug, g.propagates⟩ := by
  rw [withConsole, mount_eq, clear_eq]
  exact ⟨_, rfl⟩

theorem apart_withConsole (g : Rig) (verbose : Bool) : (g.withConsole verbose).Apart := by
  apply Apart.mount
  rw [clear_eq]
  exact fun m hm => absurd hm List.not_mem_nil

/-- A console leaves the files alone. -/
theorem handle_withConsole (g : Rig) (verbose : Bool) (t : FileTree) (r : Record) :
    (g.withConsole verbose).handle t r = t := by
  obtain ⟨n, hn⟩ := exists_withConsole_eq g verbose
  rw [hn, handle]
  exact ite_self t

/-- What writes is this program's. -/
theorem foldl_handle (ms : List Mount) (t : FileTree) (r : Record) :
    ms.foldl (fun t m => m.fitting.handle t r) t =
      (ms.filterMap Mount.own?).foldl (fun t h => h.handle t r) t := by
  induction ms generalizing t with
  | nil => rfl
  | cons m rest ih =>
    obtain ⟨number, h | name⟩ := m
    · exact ih (h.handle t r)
    · exact ih t

theorem handle_logger (h : g.least = .debug) (t : FileTree) (r : Record) :
    g.handle t r = g.logger.handle t r := by
  rw [handle, h, Level.debug_admits, Bool.and_true, foldl_handle]
  rfl

theorem handleAll_logger (h : g.least = .debug) (t : FileTree) (rs : List Record) :
    g.handleAll t rs = g.logger.handleAll t rs := by
  rw [handleAll, Logger.handleAll, funext₂ (handle_logger h)]

/-! ## One set-up -/

theorem setUp_of_ok (g : Rig) (hpath : c.path = .ok path) (h : c.opening path = .ok (full, t)) :
    g.setUp c =
      ⟨{ (g.withConsole c.verbose).mount (.own (.file full .debug)) with propagates := false },
        t, [], none⟩ := by
  simp only [setUp, hpath, h]

theorem setUp_of_system (g : Rig) {e : SystemError} (hpath : c.path = .ok path)
    (h : c.opening path = .error (.system e)) :
    g.setUp c = ⟨{ g.withConsole c.verbose with propagates := false }, c.tree,
      [openWarning path e], none⟩ := by
  simp only [setUp, hpath, h, handle_withConsole]

theorem setUp_of_name (g : Rig) {e : NameFault} (hpath : c.path = .ok path)
    (h : c.opening path = .error (.name e)) :
    g.setUp c = ⟨g.withConsole c.verbose, c.tree, [], some (.name e)⟩ := by
  simp only [setUp, hpath, h]

theorem setUp_of_homeless (g : Rig) {e : SystemError} (hpath : c.path = .error e) :
    g.setUp c = ⟨g.withConsole c.verbose, c.tree, [], some (.system e)⟩ := by
  simp only [setUp, hpath]

/-- Whatever comes of the file, the log has a new console, and a new file or none. -/
theorem rig_setUp_cases (g : Rig) (c : Call) :
    (∃ full, (g.setUp c).rig = { (g.withConsole c.verbose).mount (.own (.file full .debug)) with
      propagates := false }) ∨
    (g.setUp c).rig = { g.withConsole c.verbose with propagates := false } ∨
    (g.setUp c).rig = g.withConsole c.verbose := by
  cases hpath : c.path with
  | error e => exact .inr (.inr (by rw [setUp_of_homeless g hpath]))
  | ok path =>
    cases hopening : c.opening path with
    | ok opened => exact .inl ⟨opened.1, by rw [setUp_of_ok g hpath hopening]⟩
    | error e =>
      cases e with
      | system e => exact .inr (.inl (by rw [setUp_of_system g hpath hopening]))
      | name e => exact .inr (.inr (by rw [setUp_of_name g hpath hopening]))

/-- What was mounted is closed, ... -/
theorem closed_setUp (g : Rig) (c : Call) : (g.setUp c).rig.closed = g.closed ++ g.mounts := by
  obtain ⟨n, hn⟩ := exists_withConsole_eq g c.verbose
  rcases rig_setUp_cases g c with ⟨full, h⟩ | h | h <;> simp only [h, mount_eq, hn]

/-- ... and what is mounted is not. -/
theorem apart_setUp (g : Rig) (c : Call) : (g.setUp c).rig.Apart := by
  have hconsole := apart_withConsole g c.verbose
  rcases rig_setUp_cases g c with ⟨full, h⟩ | h | h <;> rw [h]
  · exact hconsole.mount _
  · exact hconsole
  · exact hconsole

theorem least_setUp (g : Rig) (c : Call) : (g.setUp c).rig.least = .debug := by
  obtain ⟨n, hn⟩ := exists_withConsole_eq g c.verbose
  rcases rig_setUp_cases g c with ⟨full, h⟩ | h | h <;> simp only [h, mount_eq, hn]

/-! ## Set-ups in a row -/

theorem follow_append (g : Rig) (a b : List Call) : g.follow (a ++ b) = (g.follow a).follow b :=
  List.foldl_append

theorem follow_concat (g : Rig) (cs : List Call) (c : Call) :
    g.follow (cs ++ [c]) = ((g.follow cs).setUp c).rig := by
  rw [follow_append]
  rfl

theorem closed_subset_follow (g : Rig) (cs : List Call) : g.closed ⊆ (g.follow cs).closed := by
  induction cs using List.reverseRecOn with
  | nil => exact List.Subset.refl _
  | append_singleton cs c ih =>
    rw [follow_concat, closed_setUp]
    exact List.Subset.trans ih (List.subset_append_left _ _)

/-- **What is mounted at any time is closed by the next set-up**, and stays so. -/
theorem mounts_subset_closed (g : Rig) (c : Call) (cs : List Call) :
    g.mounts ⊆ (g.follow (c :: cs)).closed := by
  have hclosed : g.mounts ⊆ (g.setUp c).rig.closed := by
    rw [closed_setUp]
    exact List.subset_append_right _ _
  exact List.Subset.trans hclosed (closed_subset_follow (g.setUp c).rig cs)

end Rig

end SynthDesk.Log
