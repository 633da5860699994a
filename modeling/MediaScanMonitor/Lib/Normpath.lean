import MediaScanMonitor.Lib.PosixPath

/-!
# Lexical locations

What `normpath` makes of an absolute text: the path of its lexical `location`, the components that are
left when `.` and `..` are resolved, behind a second slash when the text begins with exactly two.
-/

namespace PosixPath
open Text

/-- One segment followed from `p`. -/
def follow (p : List Name) (segment : Str) : List Name :=
  if segment = ['.', '.'] then p.dropLast
  else
    match toName segment with
    | none => p
    | some n => p ++ [n]

/-- The components that an absolute text denotes. -/
def location (path : Str) : List Name :=
  (split path).foldl follow []

/-- The text begins with two slashes, and with no third. -/
def DoubleSlash (path : Str) : Prop :=
  startsWith path [sep, sep] = true ∧ startsWith path [sep, sep, sep] = false

instance : DecidablePred DoubleSlash := fun path => by unfold DoubleSlash; infer_instance

variable {s path : Str} {p : List Name}

/-- No segment contains the separator. -/
lemma sep_notMem_split : ∀ segment ∈ split s, sep ∉ segment := by
  intro segment h hsep
  rw [split, List.splitOn_eq_splitOnP] at h
  have hne := splitOnP_forall segment h sep hsep
  rw [beq_self_eq_true] at hne
  cases hne

lemma toName_eq_none {segment : Str} (h : sep ∉ segment) :
    toName segment = none ↔ segment = [] ∨ segment = ['.'] ∨ segment = ['.', '.'] := by
  unfold toName
  split
  · next hv =>
    refine ⟨fun he => (by cases he), fun he => ?_⟩
    rcases he with he | he | he
    · exact absurd he hv.1
    · exact absurd he hv.2.2.1
    · exact absurd he hv.2.2.2
  · next hv =>
    refine ⟨fun _ => ?_, fun _ => rfl⟩
    by_contra hne
    rw [not_or, not_or] at hne
    exact hv ⟨hne.1, h, hne.2.1, hne.2.2⟩

/-- The loop of `normpath` follows one segment. -/
lemma pushComp_eq_follow {segment : Str} (h : sep ∉ segment) (p : List Name) :
    pushComp true (p.map Name.val).reverse segment = ((follow p segment).map Name.val).reverse := by
  by_cases hdots : segment = ['.', '.']
  · subst hdots
    have hhead : (p.map Name.val).reverse.head? ≠ some ['.', '.'] := by
      intro he
      obtain ⟨n, -, hn⟩ := List.mem_map.1 (List.mem_reverse.1 (List.mem_of_head? he))
      exact n.valid.2.2.2 hn
    have hpush : pushComp true (p.map Name.val).reverse ['.', '.'] = (p.map Name.val).reverse.tail := by
      rw [pushComp, if_neg (by decide), if_neg]
      rintro (he | ⟨he, -⟩ | he)
      · exact he rfl
      · cases he
      · exact hhead he
    rw [hpush, follow, if_pos rfl, List.tail_reverse, List.map_dropLast]
  · rw [follow, if_neg hdots]
    cases hn : toName segment with
    | none =>
      have hskip : segment = [] ∨ segment = ['.'] := by
        rcases (toName_eq_none h).1 hn with he | he | he
        · exact .inl he
        · exact .inr he
        · exact absurd he hdots
      rw [pushComp, if_pos hskip]
    | some n =>
      have hval : segment = n.val := by
        unfold toName at hn
        split at hn
        · cases hn
          rfl
        · cases hn
      subst hval
      rw [pushComp, if_neg (by simp [n.valid.1, n.valid.2.2.1]), if_pos (.inl hdots)]
      simp

lemma foldl_pushComp_eq (segments : List Str) (h : ∀ segment ∈ segments, sep ∉ segment)
    (p : List Name) :
    segments.foldl (pushComp true) (p.map Name.val).reverse =
      ((segments.foldl follow p).map Name.val).reverse := by
  induction segments generalizing p with
  | nil => rfl
  | cons segment segments ih =>
    rw [List.foldl_cons, List.foldl_cons, pushComp_eq_follow (h segment List.mem_cons_self)]
    exact ih (fun x hx => h x (List.mem_cons_of_mem _ hx)) _

lemma render_eq_intercalate (p : List Name) :
    render p = sep :: [sep].intercalate (p.map Name.val) := by
  cases p with
  | nil => rfl
  | cons n p =>
    rw [render, flatMap_eq_intercalate, List.intercalate_cons_of_ne_nil (by simp)]
    · rfl
    · simp

/-- The slashes in front of an absolute text. -/
lemma initialSlashes_absolute (h : isabs path = true) :
    initialSlashes path = if DoubleSlash path then [sep, sep] else [sep] := by
  have h1 : startsWith path [sep] = true := h
  unfold initialSlashes DoubleSlash
  show (if startsWith path [sep, sep, sep] = true then [sep]
    else if startsWith path [sep, sep] = true then [sep, sep]
    else if startsWith path [sep] = true then [sep] else []) = _
  by_cases h3 : startsWith path [sep, sep, sep] = true <;>
    by_cases h2 : startsWith path [sep, sep] = true <;> simp only [h1, h2, h3] <;> rfl

/-- `normpath` of an absolute text. -/
lemma normpath_absolute (h : isabs path = true) :
    normpath path = (if DoubleSlash path then [sep] else []) ++ render (location path) := by
  have hslashes := initialSlashes_absolute h
  have hne : path ≠ [] := by
    rintro rfl
    cases h
  have hsome : decide (initialSlashes path ≠ []) = true := by
    rw [hslashes]
    split <;> rfl
  have hcomps : ((split path).foldl (pushComp true) []).reverse =
      (location path).map Name.val := by
    have hfold := foldl_pushComp_eq (split path) sep_notMem_split []
    rw [List.map_nil, List.reverse_nil] at hfold
    rw [hfold, List.reverse_reverse]
    rfl
  have hout : initialSlashes path ++ [sep].intercalate ((location path).map Name.val) =
      (if DoubleSlash path then [sep] else []) ++ render (location path) := by
    rw [hslashes, render_eq_intercalate]
    split <;> rfl
  rw [normpath, if_neg hne]
  simp only [hsome, hcomps, hout]
  apply if_neg
  rw [render_eq_intercalate]
  exact fun he => List.cons_ne_nil _ _ (List.append_eq_nil_iff.1 he).2

lemma initialSlashes_relative (h : isabs path = false) : initialSlashes path = [] := by
  have h1 : ¬startsWith path [sep] = true := Bool.eq_false_iff.1 h
  have hlong : ∀ more, ¬startsWith path (sep :: more) = true := by
    intro more hm
    apply h1
    rw [startsWith_iff] at hm ⊢
    exact List.IsPrefix.trans ⟨more, rfl⟩ hm
  exact (if_neg (hlong [sep, sep])).trans ((if_neg (hlong [sep])).trans (if_neg h1))

/-- Joined segments do not begin with a separator. -/
lemma isabs_intercalate {comps : List Str} (h : ∀ comp ∈ comps, comp ≠ [] ∧ sep ∉ comp) :
    isabs ([sep].intercalate comps) = false := by
  cases comps with
  | nil => rfl
  | cons comp comps =>
    obtain ⟨hnil, hsep⟩ := h comp List.mem_cons_self
    obtain ⟨c, comp, rfl⟩ := List.exists_cons_of_ne_nil hnil
    apply Bool.eq_false_iff.2
    intro habs
    obtain ⟨s, hs⟩ := isabs_iff.1 habs
    have hc : c = sep := by
      cases comps with
      | nil =>
        rw [List.intercalate_singleton] at hs
        exact (List.cons.inj hs).1
      | cons d comps =>
        rw [List.intercalate_cons_cons] at hs
        exact (List.cons.inj hs).1
    rw [hc] at hsep
    exact hsep List.mem_cons_self

/-- Only an absolute text has an absolute normal form. -/
lemma isabs_normpath : isabs (normpath path) = isabs path := by
  cases h : isabs path with
  | true =>
    rw [normpath_absolute h, render_eq_intercalate]
    split <;> rfl
  | false =>
    by_cases hne : path = []
    · rw [hne]
      rfl
    · rw [normpath, if_neg hne, initialSlashes_relative h]
      dsimp only
      split
      · rfl
      · apply isabs_intercalate
        intro comp hc
        have hsub := foldl_pushComp_sublist false (split path) []
        refine ⟨foldl_pushComp_ne_nil false _ (List.forall_mem_nil _) comp (List.mem_reverse.1 hc),
          sep_notMem_split comp (hsub.mem hc)⟩

lemma follow_toName {n : Name} (p : List Name) : follow p n.val = p ++ [n] := by
  rw [follow, if_neg n.valid.2.2.2, toName_val]

/-- A path denotes itself. -/
@[simp] lemma location_render (p : List Name) : location (render p) = p := by
  have hfollow : ∀ q r : List Name, (q.map Name.val).foldl follow r = r ++ q := by
    intro q
    induction q with
    | nil => exact fun r => (List.append_nil r).symm
    | cons n q ih =>
      intro r
      rw [List.map_cons, List.foldl_cons, follow_toName, ih, List.append_assoc]
      rfl
  cases p with
  | nil => rfl
  | cons n p =>
    rw [location, split_render (List.cons_ne_nil n p), List.foldl_cons]
    exact hfollow (n :: p) []

/-- A path begins with one slash. -/
lemma startsWith_render_two (p : List Name) : startsWith (render p) [sep, sep] = false := by
  cases p with
  | nil => rfl
  | cons n p =>
    apply Bool.eq_false_iff.2
    intro h
    obtain ⟨c, cs, hn⟩ := List.exists_cons_of_ne_nil n.ne_nil
    have h : [sep, sep] <+: (n :: p).flatMap fun n => sep :: n.val := startsWith_iff.1 h
    rw [List.flatMap_cons, hn, List.cons_append, List.cons_prefix_cons, List.cons_append,
      List.cons_prefix_cons] at h
    apply n.sep_notMem
    rw [hn, h.2.1]
    exact List.mem_cons_self

lemma doubleSlash_sep_render (p : List Name) : DoubleSlash (sep :: render p) := by
  refine ⟨?_, startsWith_render_two p⟩
  rw [render_eq_intercalate]
  rfl

lemma location_sep_render (p : List Name) : location (sep :: render p) = p := by
  rw [location, split_sep_cons, List.foldl_cons]
  exact location_render p

/-! ### Normal forms -/

/-- The absolute texts that `normpath` leaves alone, with the components they denote. -/
inductive Normal : Str → List Name → Prop
  | single (p : List Name) : Normal (render p) p
  | double (p : List Name) : Normal (sep :: render p) p

lemma normal_normpath (h : isabs path = true) : Normal (normpath path) (location path) := by
  rw [normpath_absolute h]
  split
  · exact .double _
  · exact .single _

lemma Normal.isabs (h : Normal s p) : isabs s = true := by
  cases h with
  | single => exact isabs_render p
  | double => exact isabs_iff.2 ⟨render p, rfl⟩

lemma Normal.normpath_eq (h : Normal s p) : normpath s = s := by
  cases h with
  | single => exact normpath_render p
  | double =>
    rw [normpath_absolute (Normal.double p).isabs, if_pos (doubleSlash_sep_render p),
      location_sep_render]
    rfl

lemma Normal.resolve_eq (h : Normal s p) : resolve s = some p := by
  cases h with
  | single => exact resolve_render p
  | double =>
    have hsplit : (split (sep :: render p)).filter (· ≠ []) = (split (render p)).filter (· ≠ []) := by
      rw [split_sep_cons]
      rfl
    rw [resolve, hsplit]
    exact resolve_render p

lemma Normal.getLast? (h : Normal s p) : s.getLast? = (render p).getLast? := by
  cases h with
  | single => rfl
  | double =>
    rw [render_eq_intercalate]
    rfl

lemma join_cons {c : Char} {a b : Str} (ha : a ≠ []) (hb : startsWith b [sep] = false) :
    join (c :: a) b = c :: join a b := by
  have hend : endsWithChar (c :: a) sep = endsWithChar a sep := by
    obtain ⟨d, a, rfl⟩ := List.exists_cons_of_ne_nil ha
    rw [endsWithChar, List.getLast?_cons_cons]
    rfl
  rw [join, join, if_neg (Bool.eq_false_iff.1 hb), if_neg (Bool.eq_false_iff.1 hb), hend]
  by_cases he : endsWithChar a sep = true
  · rw [if_pos (.inr he), if_pos (.inr he)]
    rfl
  · rw [if_neg fun h => h.elim (List.cons_ne_nil c a) he, if_neg fun h => h.elim ha he]
    rfl

/-- What stands in front of the path in a normal form: nothing, or the second slash. -/
def IsFront (front : Str) : Prop :=
  front = [] ∨ front = [sep]

variable {front : Str}

lemma Normal.exists_front (h : Normal s p) : ∃ front, IsFront front ∧ s = front ++ render p := by
  cases h with
  | single => exact ⟨[], .inl rfl, rfl⟩
  | double => exact ⟨[sep], .inr rfl, rfl⟩

lemma IsFront.normal (h : IsFront front) (p : List Name) : Normal (front ++ render p) p := by
  rcases h with rfl | rfl
  · exact .single p
  · exact .double p

/-- It is there as long as the first slash of the path is. -/
lemma IsFront.slashes (h : IsFront front) (hpath : path <+: front ++ render p)
    (hfront : front ++ [sep] <+: path) : (if DoubleSlash path then [sep] else []) = front := by
  have hone : ∀ q, ¬[sep, sep] <+: render q := fun q hq =>
    Bool.false_ne_true ((startsWith_render_two q).symm.trans (startsWith_iff.2 hq))
  rcases h with rfl | rfl
  · exact if_neg fun hd => hone p ((startsWith_iff.1 hd.1).trans hpath)
  · refine if_pos ⟨startsWith_iff.2 hfront, Bool.eq_false_iff.2 fun h3 => hone p ?_⟩
    have h3 := (startsWith_iff.1 h3).trans hpath
    exact (List.cons_prefix_cons.1 h3).2

/-- The last component stands behind a separator, and the others are what is denoted in front of it. -/
lemma IsFront.exists_parent (h : IsFront front) (p : List Name) (n : Name) :
    ∃ parent, front ++ render (p ++ [n]) = parent ++ sep :: n.val ∧ location parent = p ∧
      ∀ r, front ++ [sep] <+: parent ++ sep :: r := by
  refine ⟨front ++ p.flatMap fun m => sep :: m.val, ?_, ?_, fun r => ?_⟩
  · rw [List.append_assoc]
    congr 1
    cases p <;> simp [render]
  · cases p with
    | nil => rcases h with rfl | rfl <;> rfl
    | cons m p =>
      rcases h with rfl | rfl
      · exact location_render (m :: p)
      · exact location_sep_render (m :: p)
  · rw [List.append_assoc, List.prefix_append_right_inj]
    cases p with
    | nil => exact ⟨r, rfl⟩
    | cons m p => exact ⟨m.val ++ (p.flatMap fun m => sep :: m.val) ++ sep :: r, by simp⟩

lemma IsFront.isabs (h : IsFront front) (hpath : front ++ [sep] <+: path) : isabs path = true := by
  obtain ⟨tail, rfl⟩ := hpath
  rcases h with rfl | rfl
  · exact isabs_iff.2 ⟨_, rfl⟩
  · exact isabs_iff.2 ⟨_, rfl⟩

lemma IsFront.join (h : IsFront front) (p : List Name) (n : Name) :
    join (front ++ render p) n.val = front ++ render (p ++ [n]) := by
  rcases h with rfl | rfl
  · exact join_render p n
  · have hne : render p ≠ [] := by
      rw [render_eq_intercalate]
      exact List.cons_ne_nil _ _
    exact (join_cons hne n.not_isabs).trans (congrArg _ (join_render p n))

lemma IsFront.joinAll (h : IsFront front) (p q : List Name) :
    joinAll (front ++ render p) q = front ++ render (p ++ q) := by
  induction q generalizing p with
  | nil =>
    rw [List.append_nil]
    rfl
  | cons n q ih =>
    have hq := ih (p ++ [n])
    rw [← h.join, List.append_assoc] at hq
    exact hq

lemma Normal.join (h : Normal s p) (n : Name) : Normal (join s n.val) (p ++ [n]) := by
  obtain ⟨front, hf, rfl⟩ := h.exists_front
  rw [hf.join]
  exact hf.normal _

lemma Normal.joinAll (h : Normal s p) (q : List Name) : Normal (joinAll s q) (p ++ q) := by
  obtain ⟨front, hf, rfl⟩ := h.exists_front
  rw [hf.joinAll]
  exact hf.normal _

/-- One segment leads at most one component further. -/
lemma follow_prefix (p : List Name) (segment : Str) (n : Name) :
    ∃ m, follow p segment <+: p ++ [m] := by
  unfold follow
  split
  · exact ⟨n, (List.dropLast_prefix p).trans (List.prefix_append _ _)⟩
  · split
    · exact ⟨n, List.prefix_append _ _⟩
    · next m _ => exact ⟨m, List.prefix_rfl⟩

/-- The last segment of a text is followed last. -/
lemma location_append (s : Str) {segment : Str} (h : sep ∉ segment) :
    location (s ++ sep :: segment) = follow (location s) segment := by
  rw [location, split, List.splitOn_append_cons_self, List.splitOn_eq_singleton h, List.foldl_append]
  rfl

/-- The second of two slashes belongs to no component. -/
lemma sep_render_ne (p q : List Name) : sep :: render p ≠ render q := by
  intro h
  have hloc := location_sep_render p
  rw [h, location_render] at hloc
  have hlen := congrArg List.length h
  rw [hloc, List.length_cons] at hlen
  omega

end PosixPath
