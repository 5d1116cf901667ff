import Pacts.Proofs.Url.Origin

/-!
# URLs of the web name a host

A URL of the web is read from a text that has a host, and reading the host does not come to nothing:
an address is written out again in full, and a name that comes to nothing is refused.  Whatever else
is read or resolved, the scheme and the host stay together.  So a port can be given to every URL of
the web (`withPort?_eq_some`), also where the type leaves room for a URL to which it could not.

Files are apart.  Their URLs may do without a host, and take no port.
-/

set_option autoImplicit false

namespace Pacts

namespace Url

/-- A URL of a special scheme, other than that of files, names a host. -/
def Hosted (u : Url) : Prop :=
  isSpecial u.scheme = true → u.scheme ≠ fileScheme → u.hasHost = true

/-- Nothing but the scheme and the host matters. -/
theorem Hosted.congr {u v : Url} (h : v.Hosted) (hscheme : u.scheme = v.scheme)
    (hhost : u.host = v.host) : u.Hosted := by
  rw [Hosted, hasHost, hscheme, hhost]
  exact h

theorem hosted_of_file {u : Url} (h : u.scheme = fileScheme) : u.Hosted :=
  fun _ hfile => absurd h hfile

theorem hosted_of_plain {u : Url} (h : isSpecial u.scheme = false) : u.Hosted := by
  intro hspecial
  rw [h] at hspecial
  cases hspecial

/-! ## Hosts -/

theorem ipv6Host_ne_empty {cs : List Char} {host : String} (h : ipv6Host cs = .ok host) :
    host ≠ "" := by
  rw [ipv6Host] at h
  split at h
  · cases h
    simp
  · cases h

theorem ipv4Host_ne_empty {cs : List Char} {host : String} (h : ipv4Host cs = .ok host) :
    host ≠ "" := by
  rw [ipv4Host] at h
  repeat' split at h
  · cases h
  · cases h
  · cases h
    simp [ipv4Text]

/-- The host of a special scheme is not empty. -/
theorem domainHost_ne_empty {cs : List Char} {host : String} (h : domainHost cs = .ok host) :
    host ≠ "" := by
  rw [domainHost] at h
  split at h
  · exact ipv6Host_ne_empty h
  · cases h
  · split at h
    · cases h
    · split at h
      · cases h
      · rename_i hname
        split at h
        · exact ipv4Host_ne_empty h
        · cases h
          simpa using hname

/-! ## Reading -/

theorem scheme_withPathBehindHost (u : Url) (cs : List Char) :
    (u.withPathBehindHost cs).scheme = u.scheme := by
  unfold withPathBehindHost
  repeat' split
  all_goals rfl

theorem host_withPathBehindHost (u : Url) (cs : List Char) :
    (u.withPathBehindHost cs).host = u.host := by
  unfold withPathBehindHost
  repeat' split
  all_goals rfl

/-- What is read behind `//` has the scheme that it was read for, and a host if this is special. -/
theorem hosted_readAuthority {scheme : String} {cs : List Char} {u : Url}
    (h : readAuthority scheme cs = .ok u) : u.scheme = scheme ∧ u.Hosted := by
  simp only [readAuthority] at h
  split at h
  · cases h
  split at h
  · cases h
  split at h
  · obtain ⟨host, hhost, h⟩ := bind_eq_ok_iff.1 h
    obtain ⟨port, -, h⟩ := bind_eq_ok_iff.1 h
    cases h
    refine ⟨scheme_withPathBehindHost _ _, fun _ _ => ?_⟩
    rw [hasHost, host_withPathBehindHost]
    simpa using domainHost_ne_empty hhost
  · rename_i hplain
    obtain ⟨host, -, h⟩ := bind_eq_ok_iff.1 h
    obtain ⟨port, -, h⟩ := bind_eq_ok_iff.1 h
    cases h
    refine ⟨scheme_withPathBehindHost _ _, hosted_of_plain ?_⟩
    rw [scheme_withPathBehindHost]
    exact eq_false_of_ne_true hplain

theorem scheme_readFileHost {cs : List Char} {u : Url} (h : readFileHost cs = .ok u) :
    u.scheme = fileScheme := by
  simp only [readFileHost] at h
  split at h
  · cases h
    rfl
  split at h
  · cases h
    rfl
  obtain ⟨host, -, h⟩ := bind_eq_ok_iff.1 h
  split at h
  · cases h
    rfl
  have hscheme := scheme_withPathBehindHost (fileUrl host) (cutAt (endsAuthority true) cs).2
  split at h
  · cases h
    split <;> exact hscheme
  · cases h
    exact hscheme

theorem scheme_fromRoot (base? : Option Url) (rest : List Char) :
    (readFile.fromRoot base? rest).scheme = fileScheme := by
  fun_cases readFile.fromRoot base? rest <;> rfl

theorem hosted_readFile {base? : Option Url} (hb : ∀ base ∈ base?, Hosted base) {cs : List Char}
    {u : Url} : readFile base? cs = .ok u → u.Hosted := by
  fun_cases readFile base? cs with
  | case1 => exact fun h => hosted_of_file (scheme_readFileHost h)
  | case2 | case3 =>
    rintro ⟨⟩
    exact hosted_of_file (scheme_fromRoot _ _)
  | case4 | case9 =>
    rintro ⟨⟩
    exact hosted_of_file rfl
  | case5 | case6 | case10 =>
    rintro ⟨⟩
    exact (hb _ rfl).congr rfl rfl
  | case7 =>
    rw [if_pos ‹_›]
    rintro ⟨⟩
    exact hosted_of_file rfl
  | case8 =>
    rw [if_neg ‹_›]
    rintro ⟨⟩
    exact (hb _ rfl).congr rfl rfl

theorem hosted_readRelative {base : Url} (hb : base.Hosted) {cs : List Char} {u : Url}
    (h : readRelative base cs = .ok u) : u.Hosted := by
  simp only [readRelative] at h
  split at h
  · cases h
    exact hb.congr rfl rfl
  · cases h
    exact hb.congr rfl rfl
  · cases h
    exact hb.congr rfl rfl
  · split at h
    · -- two slashes lead to another host, and one to the root of the same
      split at h
      · exact (hosted_readAuthority h).2
      · split at h
        · exact (hosted_readAuthority h).2
        · cases h
          exact hb.congr rfl rfl
    · cases h
      exact hb.congr rfl rfl

theorem hosted_readSpecial {base? : Option Url} (hb : ∀ base ∈ base?, Hosted base)
    {scheme : String} {cs : List Char} {u : Url} :
    readSpecial base? scheme cs = .ok u → u.Hosted := by
  fun_cases readSpecial base? scheme cs with
  | case1 => exact fun h => hosted_readRelative (hb _ rfl) h
  | case2 | case3 => exact fun h => (hosted_readAuthority h).2

theorem hosted_readPlain {scheme : String} (hs : isSpecial scheme = false) {cs : List Char}
    {u : Url} : readPlain scheme cs = .ok u → u.Hosted := by
  fun_cases readPlain scheme cs with
  | case1 => exact fun h => (hosted_readAuthority h).2
  | case2 | case3 =>
    rintro ⟨⟩
    exact hosted_of_plain hs

theorem hosted_read {base? : Option Url} (hb : ∀ base ∈ base?, Hosted base) {text : String}
    {u : Url} : read base? text = .ok u → u.Hosted := by
  fun_cases read base? text with
  | case1 => exact hosted_readFile fun base h => hb base (Option.mem_filter_iff.1 h).1
  | case2 => exact hosted_readSpecial hb
  | case3 => exact hosted_readPlain (eq_false_of_ne_true ‹_›)
  | case4 | case6 => rintro ⟨⟩
  | case5 =>
    rintro ⟨⟩
    exact (hb _ rfl).congr rfl rfl
  | case7 => exact hosted_readFile hb
  | case8 => exact fun h => hosted_readRelative (hb _ rfl) h

/-- **URLs of the web name a host.** -/
theorem Arises.hosted {u : Url} (h : u.Arises) : u.Hosted := by
  induction h with
  | parsed h => exact hosted_read (by simp) h
  | resolved _ h ih => exact hosted_read (by simpa using ih) h
  | ported _ h ih =>
    rw [withPort?] at h
    split at h
    · cases h
      exact ih.congr rfl rfl
    · cases h

/-! ## Ports -/

/-- A URL of the web can be given any port. -/
theorem Arises.withPort?_eq_some {u : Url} (h : u.Arises)
    (hweb : u.scheme = "http" ∨ u.scheme = "https") (port : Nat) :
    u.withPort? port =
      some { u with port := if defaultPort? u.scheme = some port then none else some port } := by
  have hspecial : isSpecial u.scheme = true ∧ u.scheme ≠ fileScheme := by
    rcases hweb with hs | hs <;> rw [hs] <;> decide
  rw [withPort?, if_pos ⟨h.hosted hspecial.1 hspecial.2, hspecial.2⟩]

/-- Whether or not a port is spelled out, it is the one that a connection goes to. -/
theorem effectivePort?_of_port {u : Url} {port : Nat}
    (h : u.port = if defaultPort? u.scheme = some port then none else some port) :
    u.effectivePort? = some port := by
  rw [effectivePort?, h]
  split
  · rename_i hdefault
    rw [Option.none_or, hdefault]
  · rfl

end Url

end Pacts
