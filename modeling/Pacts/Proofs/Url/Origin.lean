import Pacts.Proofs.Results
import Pacts.Url.Parse

/-!
# Where URLs come from

The parts of a `Url` can be put together at will, and not everything that can be put together is a
URL: one of the web always has a path of segments, never a bare one.  The URLs that the program
works with are read from texts, resolved against one another, and given other ports; `Arises` says
just this.

* `hasSegments_read`: whatever is read, the schemes of the web come with a path of segments.
* `Arises.hasSegments`: so do all the URLs that arise.
-/

set_option autoImplicit false

namespace Pacts

namespace Url

/-- A URL that is read from a text, resolved against one that arises, or given another port. -/
inductive Arises : Url → Prop
  | parsed {text : String} {u : Url} (h : parse text = .ok u) : Arises u
  | resolved {base u : Url} {text : String} (hb : Arises base) (h : resolve base text = .ok u) :
      Arises u
  | ported {base u : Url} {port : Nat} (hb : Arises base) (h : base.withPort? port = some u) :
      Arises u

/-- The path of the URL is one of segments. -/
def Segmented (u : Url) : Prop := ∃ names, u.path = .segments names

/-- A URL of a special scheme has a path of segments. -/
def HasSegments (u : Url) : Prop := isSpecial u.scheme = true → u.Segmented

theorem Segmented.hasSegments {u : Url} (h : u.Segmented) : u.HasSegments := fun _ => h

/-! ## Paths -/

theorem segmented_withPathOf (u : Url) (segments : List String) (cs : List Char) :
    (u.withPathOf segments cs).Segmented := ⟨_, rfl⟩

theorem segmented_withPathBehindHost (u : Url) (cs : List Char) :
    (u.withPathBehindHost cs).Segmented := by
  unfold withPathBehindHost
  split
  · split
    · exact segmented_withPathOf u [] []
    · exact ⟨[], rfl⟩
  · split
    · exact segmented_withPathOf u [] _
    · split
      · exact ⟨[], rfl⟩
      · exact segmented_withPathOf u [] _

/-! ## Reading -/

theorem segmented_readAuthority {scheme : String} {cs : List Char} {u : Url}
    (h : readAuthority scheme cs = .ok u) : u.Segmented := by
  simp only [readAuthority] at h
  split at h
  · cases h
  split at h
  · cases h
  split at h <;>
  · obtain ⟨host, -, h⟩ := bind_eq_ok_iff.1 h
    obtain ⟨port, -, h⟩ := bind_eq_ok_iff.1 h
    cases h
    exact segmented_withPathBehindHost _ _

theorem segmented_readFileHost {cs : List Char} {u : Url} (h : readFileHost cs = .ok u) :
    u.Segmented := by
  simp only [readFileHost] at h
  split at h
  · cases h
    exact segmented_withPathOf _ _ _
  split at h
  · cases h
    exact segmented_withPathOf _ _ _
  obtain ⟨host, -, h⟩ := bind_eq_ok_iff.1 h
  split at h
  · cases h
    exact segmented_withPathOf _ _ _
  have hu := segmented_withPathBehindHost (fileUrl host) (cutAt (endsAuthority true) cs).2
  split at h
  · cases h
    split <;> exact hu
  · cases h
    exact hu

theorem segmented_fromRoot (base? : Option Url) (rest : List Char) :
    (readFile.fromRoot base? rest).Segmented := by
  fun_cases readFile.fromRoot base? rest <;> exact segmented_withPathOf _ _ _

theorem hasSegments_readFile {base? : Option Url} (hb : ∀ base ∈ base?, HasSegments base)
    {cs : List Char} {u : Url} : readFile base? cs = .ok u → u.HasSegments := by
  fun_cases readFile base? cs with
  | case1 =>
    intro h
    exact (segmented_readFileHost h).hasSegments
  | case2 | case3 =>
    rintro ⟨⟩
    exact (segmented_fromRoot _ _).hasSegments
  | case4 | case9 =>
    rintro ⟨⟩
    exact (segmented_withPathOf _ _ _).hasSegments
  | case5 | case6 | case10 =>
    rintro ⟨⟩
    exact (hb _ rfl :)
  | case7 | case8 =>
    intro h
    split at h <;>
    · cases h
      exact (segmented_withPathOf _ _ _).hasSegments

theorem hasSegments_readRelative {base : Url} (hb : base.HasSegments) {cs : List Char} {u : Url}
    (h : readRelative base cs = .ok u) : u.HasSegments := by
  simp only [readRelative] at h
  split at h
  · cases h
    exact hb
  · cases h
    exact hb
  · cases h
    exact hb
  · split at h
    · -- two slashes lead to another host, and one to the root of the same
      split at h
      · exact (segmented_readAuthority h).hasSegments
      · split at h
        · exact (segmented_readAuthority h).hasSegments
        · cases h
          exact (segmented_withPathOf _ _ _).hasSegments
    · cases h
      exact (segmented_withPathOf _ _ _).hasSegments

theorem hasSegments_readSpecial {base? : Option Url} (hb : ∀ base ∈ base?, HasSegments base)
    {scheme : String} {cs : List Char} {u : Url} :
    readSpecial base? scheme cs = .ok u → u.HasSegments := by
  fun_cases readSpecial base? scheme cs with
  | case1 => exact fun h => hasSegments_readRelative (hb _ rfl) h
  | case2 | case3 => exact fun h => (segmented_readAuthority h).hasSegments

/-- A bare path is read for none but the other schemes. -/
theorem hasSegments_readPlain {scheme : String} (hs : isSpecial scheme = false) {cs : List Char}
    {u : Url} : readPlain scheme cs = .ok u → u.HasSegments := by
  fun_cases readPlain scheme cs with
  | case1 => exact fun h => (segmented_readAuthority h).hasSegments
  | case2 =>
    rintro ⟨⟩
    exact (segmented_withPathOf _ _ _).hasSegments
  | case3 =>
    rintro ⟨⟩
    exact fun hspecial => absurd hspecial (by rw [Bool.not_eq_true]; exact hs)

theorem hasSegments_read {base? : Option Url} (hb : ∀ base ∈ base?, HasSegments base)
    {text : String} {u : Url} : read base? text = .ok u → u.HasSegments := by
  fun_cases read base? text with
  | case1 => exact hasSegments_readFile fun base h => hb base (Option.mem_filter_iff.1 h).1
  | case2 => exact hasSegments_readSpecial hb
  | case3 => exact hasSegments_readPlain (eq_false_of_ne_true ‹_›)
  | case4 | case6 => exact nofun
  | case5 =>
    rintro ⟨⟩
    exact (hb _ rfl :)
  | case7 => exact hasSegments_readFile hb
  | case8 => exact fun h => hasSegments_readRelative (hb _ rfl) h

/-- **URLs of the web have a path of segments.** -/
theorem Arises.hasSegments {u : Url} (h : u.Arises) : u.HasSegments := by
  induction h with
  | parsed h => exact hasSegments_read (by simp) h
  | resolved _ h ih => exact hasSegments_read (by simpa using ih) h
  | ported _ h ih =>
    rw [withPort?] at h
    split at h
    · cases h
      exact ih
    · cases h

end Url

end Pacts
