import Pacts.Load.Inclusion

/-!
# Which consumers count is a matter of a set

The settings that name the consumers that count are a list of texts, each of which is a list of
names once its placeholders are looked up.  None of this structure should matter: not the order of
the names, not how they are spread over the texts, not how often one is given, and not how many of
the texts come to nothing.  There are two ways to say that every consumer counts, no texts at all
and texts that all come to nothing, and they should be the same.

* `Inclusion.Named` — a name stands in one of the lists, wherever and however often.
* `Inclusion.keep_congr` — what is kept depends on which names there are.
* `Inclusion.filter_by_names` — the rule that follows.
-/

set_option autoImplicit false

namespace Pacts

namespace Inclusion

/-- The settings name a consumer. -/
def Named (lookup : Lookup) (settings : List String) (name : String) : Prop :=
  ∃ text ∈ settings, name ∈ expandList lookup text

instance (lookup : Lookup) (settings : List String) (name : String) :
    Decidable (Named lookup settings name) :=
  inferInstanceAs (Decidable (∃ text ∈ settings, name ∈ expandList lookup text))

variable {lookup : Lookup} {settings : List String}

theorem named_iff_mem_names {name : String} :
    Named lookup settings name ↔ name ∈ names lookup settings :=
  List.mem_flatMap.symm

theorem names_eq_nil_iff : names lookup settings = [] ↔ ∀ name, ¬ Named lookup settings name := by
  simp only [named_iff_mem_names, List.eq_nil_iff_forall_not_mem]

/-- Lists with the same names keep the same consumers. -/
theorem keep_congr {names others : List String} (h : ∀ name, name ∈ names ↔ name ∈ others) :
    keep names = keep others := by
  have hnil : names = [] ↔ others = [] := by
    simp only [List.eq_nil_iff_forall_not_mem, h]
  have hcontains : ∀ name, names.contains name = others.contains name := by
    intro name
    rw [Bool.eq_iff_iff, List.contains_iff_mem, List.contains_iff_mem, h]
  funext ks
  simp only [keep, hnil, hcontains]

/-- A consumer that is kept is kept as often as it is there. -/
theorem count_keep_of_mem {names : List String} {ks : List Consumer} {k : Consumer}
    (h : k ∈ keep names ks) : (keep names ks).count k = ks.count k := by
  rw [keep] at h ⊢
  split at h
  · rename_i hn
    rw [if_pos hn]
  · rename_i hn
    rw [if_neg hn]
    exact List.count_filter (p := fun k : Consumer => names.contains k.name) (List.mem_filter.1 h).2

/-- **Which consumers count depends on a set of names.**  When nobody is named, in particular when
there are no settings, everybody counts; otherwise those count whose names are in the set.  Settings
that name the same consumers, whatever they look like and whatever their placeholders are looked up
in, let the same consumers count.  The consumers that count are a part of the consumers, in their
order and as often as they are there; of two lists they are those of the one and those of the other;
and all of them count when they are looked through again. -/
theorem filter_by_names (lookup : Lookup) (settings : List String) :
    ((∀ name, ¬ Named lookup settings name) → ∀ ks, filter lookup settings ks = ks) ∧
    (settings = [] → ∀ name, ¬ Named lookup settings name) ∧
    ((∃ name, Named lookup settings name) → ∀ ks, filter lookup settings ks =
      ks.filter (Named lookup settings ·.name)) ∧
    (∀ (other : Lookup) (others : List String),
      (∀ name, Named lookup settings name ↔ Named other others name) →
        filter lookup settings = filter other others) ∧
    (∀ ks, (filter lookup settings ks).Sublist ks ∧
      ∀ k ∈ filter lookup settings ks, (filter lookup settings ks).count k = ks.count k) ∧
    (∀ a b, filter lookup settings (a ++ b) =
      filter lookup settings a ++ filter lookup settings b) ∧
    ∀ ks, filter lookup settings (filter lookup settings ks) = filter lookup settings ks := by
  refine ⟨fun h ks => ?_, ?_, fun h ks => ?_, fun other others h => ?_, fun ks => ⟨?_, ?_⟩,
    keep_append _, keep_keep _⟩
  · exact if_pos (names_eq_nil_iff.2 h)
  · rintro rfl name ⟨text, ht, -⟩
    cases ht
  · have hne : names lookup settings ≠ [] := by
      obtain ⟨name, hname⟩ := h
      exact fun hn => names_eq_nil_iff.1 hn name hname
    rw [filter, keep, if_neg hne]
    refine List.filter_congr fun k _ => ?_
    rw [Bool.eq_iff_iff, List.contains_iff_mem, decide_eq_true_iff, named_iff_mem_names]
  · refine keep_congr fun name => ?_
    rw [← named_iff_mem_names, ← named_iff_mem_names, h]
  · exact keep_sublist _ ks
  · exact fun k hk => count_keep_of_mem hk

/-- Names from a placeholder, given twice and beside a text that comes to nothing, count like the
same names one after the other; a text that comes to nothing lets everybody count. -/
theorem filter_by_names_of_repeated :
    let lookup := (Values.ofList [("TEAM", "web, shop,,web")]).lookup
    let settings := ["${TEAM}", "${NOBODY:}"]
    let shop : Consumer := ⟨"shop", "http://broker/shop.json", [], none⟩
    let web : Consumer := ⟨"web", "http://broker/web.json", [], some "prod"⟩
    let app : Consumer := ⟨"app", "http://broker/app.json", [], none⟩
    (∀ name, Named lookup settings name ↔ Named .empty ["shop", "web"] name) ∧
      filter lookup settings = filter .empty ["shop", "web"] ∧
      (∃ name, Named lookup settings name) ∧
      filter lookup settings [web, app, shop, web] = [web, shop, web] ∧
      (∀ name, ¬ Named lookup ["${NOBODY:}"] name) ∧
      filter lookup ["${NOBODY:}"] [web, app, shop, web] = [web, app, shop, web] := by
  intro lookup settings shop web app
  have hnames : names lookup settings = ["web", "shop", "web"] := by decide
  have hothers : names .empty ["shop", "web"] = ["shop", "web"] := by decide
  have hnobody : names lookup ["${NOBODY:}"] = [] := by decide
  have hsame : ∀ name, Named lookup settings name ↔ Named .empty ["shop", "web"] name := by
    intro name
    rw [named_iff_mem_names, named_iff_mem_names, hnames, hothers]
    grind
  have hsome : ∃ name, Named lookup settings name := by
    refine ⟨"web", named_iff_mem_names.2 ?_⟩
    rw [hnames]
    decide
  have hnone : ∀ name, ¬ Named lookup ["${NOBODY:}"] name := names_eq_nil_iff.1 hnobody
  obtain ⟨-, -, hfilter, hcongr, -⟩ := filter_by_names lookup settings
  refine ⟨hsame, hcongr _ _ hsame, hsome, ?_, hnone, (filter_by_names lookup _).1 hnone _⟩
  rw [hfilter hsome]
  decide

end Inclusion

end Pacts
