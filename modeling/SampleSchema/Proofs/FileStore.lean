/-
  Where paths lead, and what a write changes.

  A path is followed through directories, and depends on nothing else: on where directories are, and
  on which of them let one in.

  1. **Names lead to their place** from the root or from the working directory (`locate_absolute`,
     `locate_relative`), if those around it are directories that can be entered.

  2. **Setting one entry leaves every other place as it was** (`sameBut_set`).  The crux are the
     places around the new entry.  They are directories already, because the one right around it is:
     a place inside which something is stored has places around it inside which the same is stored.

  3. **A path that was followed leads to the same place afterwards** (`SameBut.follow_eq_ok`), as
     every directory is still one.  So the file holds the text under the path under which it was
     written, whatever detours the path makes (`write_ok`), and gives it to whoever may read it.
-/
import SampleSchema.Files
import SampleSchema.Proofs.Steps

namespace SampleSchema
namespace Files

variable {f g : Files} {p q : Place} {name path text : String} {names : List String}

/-! ## Steps that succeed -/

/-- A name can be looked up in a directory, and unless it is empty the directory has to allow it. -/
theorem enter_eq_ok_iff : f.enter p name = .ok q ↔ f.entryAt p = some .directory ∧
    (name ≠ "" → f.allow .enter p = .ok () ∧ byteLength name.toList ≤ longestName) ∧
    step p name = q := by
  unfold enter
  split
  · next h => simp [h]
  · next h =>
    by_cases hempty : name = ""
    · simp [h, hempty, step]
    · rw [if_neg hempty, check_bind_eq_ok_iff]
      by_cases hlong : longestName < byteLength name.toList
      · simp [hlong, hempty, Nat.not_le.mpr hlong]
      · simp [h, hlong, hempty, Nat.not_lt.mp hlong]
  · next e hfile h =>
    refine ⟨fun hc => (by cases hc), fun ⟨hdir, _⟩ => ?_⟩
    exact absurd (Option.some.inj (h.symm.trans hdir)) hfile

theorem follow_cons_eq_ok_iff : f.follow p (name :: names) = .ok q ↔
    ∃ r, f.enter p name = .ok r ∧ f.follow r names = .ok q := bind_eq_ok_iff

theorem follow_append_eq_ok_iff {before : List String} : f.follow p (before ++ names) = .ok q ↔
    ∃ r, f.follow p before = .ok r ∧ f.follow r names = .ok q := by
  rw [follow, List.foldlM_append]
  exact bind_eq_ok_iff

theorem follow_singleton : f.follow p [name] = f.enter p name := by
  rw [follow, List.foldlM_cons]
  cases f.enter p name <;> rfl

theorem locate_eq_ok_iff : f.locate path = .ok p ↔
    checkPath path = .ok () ∧ f.follow (f.origin path) (namesOf path) = .ok p := by
  rw [locate]
  exact check_bind_eq_ok_iff

/-- What can be read is a text at the place to which the path leads, which allows it. -/
theorem read_eq_ok_iff : f.read path = .ok text ↔
    ∃ p, f.locate path = .ok p ∧ f.entryAt p = some (.text text) ∧ f.allow .read p = .ok () := by
  rw [read, bind_eq_ok_iff]
  refine exists_congr fun p => and_congr_right fun _ => ?_
  rcases f.entryAt p with _ | _ | s | _
  · simp
  · simp [Entry.content, check_bind_eq_ok_iff]
  · simp [Entry.content, check_bind_eq_ok_iff, and_comm]
  · simp [Entry.content, check_bind_eq_ok_iff]

/-! ## Names lead to their place -/

/-- A name that a file can have. -/
structure IsName (name : String) : Prop where
  proper : namesDirectory name = false
  noSlash : '/' ∉ name.toList
  noNull : '\x00' ∉ name.toList
  short : byteLength name.toList ≤ longestName

theorem IsName.ne_empty (h : IsName name) : name ≠ "" := by
  rintro rfl
  exact absurd h.proper (by decide)

theorem step_of_proper (h : namesDirectory name = false) (p : Place) :
    step p name = p ++ [name] := by
  obtain ⟨⟨hempty, hdot⟩, hdots⟩ : (name ≠ "" ∧ name ≠ ".") ∧ name ≠ ".." := by
    simpa [namesDirectory] using h
  rw [step, if_neg (not_or.mpr ⟨hempty, hdot⟩), if_neg hdots]

/-- The places that one goes through are directories, and let one in. -/
def Passable (f : Files) (p : Place) (names : List String) : Prop :=
  ∀ before, before <+: names → before ≠ names →
    f.entryAt (p ++ before) = some .directory ∧ f.allow .enter (p ++ before) = .ok ()

theorem follow_names (hnames : ∀ n ∈ names, IsName n) : ∀ {p : Place}, f.Passable p names →
    f.follow p names = .ok (p ++ names) := by
  induction names with
  | nil => intro p _; rw [List.append_nil]; rfl
  | cons n names ih =>
    intro p hpass
    obtain ⟨hn, hnames⟩ := List.forall_mem_cons.mp hnames
    obtain ⟨hdir, henter⟩ := hpass [] List.nil_prefix (List.cons_ne_nil _ _).symm
    rw [List.append_nil] at hdir henter
    refine follow_cons_eq_ok_iff.mpr ⟨p ++ [n], ?_, ?_⟩
    · exact enter_eq_ok_iff.mpr ⟨hdir, fun _ => ⟨henter, hn.short⟩, step_of_proper hn.proper p⟩
    · have hrest : f.Passable (p ++ [n]) names := by
        intro before hbefore hne
        have hinside := hpass (n :: before) ((List.prefix_cons_inj n).mpr hbefore)
          fun hc => hne (List.cons_inj_right n |>.mp hc)
        rwa [← List.append_cons]
      rw [ih hnames hrest, ← List.append_cons]

theorem splitAtChar_of_not_mem {sep : Char} {cs : List Char} (h : sep ∉ cs) :
    splitAtChar sep cs = [cs] := by
  induction cs with
  | nil => rfl
  | cons c cs ih =>
    rw [List.mem_cons, not_or] at h
    rw [splitAtChar, if_neg (Ne.symm h.1), ih h.2]

theorem splitAtChar_append {sep : Char} {cs rest : List Char} (h : sep ∉ cs) :
    splitAtChar sep (cs ++ sep :: rest) = cs :: splitAtChar sep rest := by
  induction cs with
  | nil => rw [List.nil_append, splitAtChar, if_pos rfl]
  | cons c cs ih =>
    rw [List.mem_cons, not_or] at h
    rw [List.cons_append, splitAtChar, if_neg (Ne.symm h.1), ih h.2]

/-- The names of a path that is made of them. -/
theorem namesOf_intercalate (hnames : ∀ n ∈ names, '/' ∉ n.toList) (hne : names ≠ []) :
    namesOf ("/".intercalate names) = names := by
  have hsplit : splitAtChar '/' ("/".intercalate names).toList = names.map String.toList := by
    rw [String.toList_intercalate]
    induction names with
    | nil => exact absurd rfl hne
    | cons n rest ih =>
      obtain ⟨hn, hrest⟩ := List.forall_mem_cons.mp hnames
      cases rest with
      | nil =>
        have hone : List.intercalate "/".toList [n.toList] = n.toList := List.append_nil _
        rw [List.map_singleton, hone, splitAtChar_of_not_mem hn]
      | cons m rest =>
        have hmore : List.intercalate "/".toList ((n :: m :: rest).map String.toList) =
            n.toList ++ '/' :: List.intercalate "/".toList ((m :: rest).map String.toList) := rfl
        rw [hmore, splitAtChar_append hn, ih hrest (List.cons_ne_nil _ _)]
        rfl
  rw [namesOf, hsplit, List.map_map]
  exact List.map_id'' (fun n => String.ofList_toList) names

theorem namesOf_slash (path : String) : namesOf ("/" ++ path) = "" :: namesOf path := by
  have hslash : ("/" ++ path).toList = '/' :: path.toList := String.toList_append
  rw [namesOf, hslash, splitAtChar, if_pos rfl]
  rfl

theorem entryAt_root (f : Files) : f.entryAt [] = some .directory := if_pos rfl

/-- **A path from the root** leads to the place of its names. -/
theorem locate_absolute (hnames : ∀ n ∈ names, IsName n) (hne : names ≠ [])
    (hcheck : checkPath ("/" ++ "/".intercalate names) = .ok ()) (hpass : f.Passable [] names) :
    f.locate ("/" ++ "/".intercalate names) = .ok names := by
  have horigin : f.origin ("/" ++ "/".intercalate names) = [] := by
    refine if_pos ?_
    rw [String.toList_append]
    rfl
  refine locate_eq_ok_iff.mpr ⟨hcheck, ?_⟩
  rw [horigin, namesOf_slash, namesOf_intercalate (fun n hn => (hnames n hn).noSlash) hne]
  refine follow_cons_eq_ok_iff.mpr ⟨[], ?_, follow_names hnames hpass⟩
  exact enter_eq_ok_iff.mpr ⟨f.entryAt_root, fun hc => absurd rfl hc, rfl⟩

/-- **A path without a slash in front** leads to the place of its names from the working
    directory. -/
theorem locate_relative (hnames : ∀ n ∈ names, IsName n) (hne : names ≠ [])
    (hcheck : checkPath ("/".intercalate names) = .ok ())
    (hpass : f.Passable f.workingDirectory names) :
    f.locate ("/".intercalate names) = .ok (f.workingDirectory ++ names) := by
  have hsplit := namesOf_intercalate (fun n hn => (hnames n hn).noSlash) hne
  have horigin : f.origin ("/".intercalate names) = f.workingDirectory := by
    refine if_neg fun hslash => ?_
    -- a slash in front would be behind an empty name
    obtain ⟨rest, hrest⟩ := List.head?_eq_some_iff.mp hslash
    rw [namesOf, hrest, splitAtChar, if_pos rfl] at hsplit
    refine absurd ?_ (hnames "" ?_).ne_empty
    · rfl
    · rw [← hsplit]
      exact List.mem_cons_self
  refine locate_eq_ok_iff.mpr ⟨hcheck, ?_⟩
  rw [horigin, hsplit]
  exact follow_names hnames hpass

/-! ## Stores that are the same but for one place -/

/-- The same store, but for what is at one place. -/
structure SameBut (f g : Files) (place : Place) : Prop where
  workingDirectory : g.workingDirectory = f.workingDirectory
  refusals : g.refusals = f.refusals
  entryAt : ∀ p, p ≠ place → g.entryAt p = f.entryAt p

/-- A path leads to a file with this text. -/
def Holds (f : Files) (path text : String) : Prop :=
  ∃ p, f.locate path = .ok p ∧ f.entryAt p = some (.text text)

namespace SameBut

variable {place : Place}

theorem allow_eq (h : f.SameBut g place) (use : Use) (p : Place) :
    g.allow use p = f.allow use p := by
  rw [allow, allow, h.refusals]

theorem origin_eq (h : f.SameBut g place) (path : String) : g.origin path = f.origin path := by
  rw [origin, origin, h.workingDirectory]

theorem enter_eq_ok (h : f.SameBut g place) (hfile : f.entryAt place ≠ some .directory)
    (hq : f.enter p name = .ok q) : g.enter p name = .ok q := by
  obtain ⟨hdir, hallowed, hstep⟩ := enter_eq_ok_iff.mp hq
  have hne : p ≠ place := by
    rintro rfl
    exact hfile hdir
  exact enter_eq_ok_iff.mpr
    ⟨(h.entryAt p hne).trans hdir, h.allow_eq .enter p ▸ hallowed, hstep⟩

/-- A path leads where it led, if one could not go through the place that differs. -/
theorem follow_eq_ok (h : f.SameBut g place) (hfile : f.entryAt place ≠ some .directory) :
    ∀ {p : Place}, f.follow p names = .ok q → g.follow p names = .ok q := by
  induction names with
  | nil => exact fun hq => hq
  | cons name names ih =>
    intro p hq
    obtain ⟨r, hr, hrest⟩ := follow_cons_eq_ok_iff.mp hq
    exact follow_cons_eq_ok_iff.mpr ⟨r, h.enter_eq_ok hfile hr, ih hrest⟩

theorem locate_eq_ok (h : f.SameBut g place) (hfile : f.entryAt place ≠ some .directory)
    (hp : f.locate path = .ok p) : g.locate path = .ok p := by
  obtain ⟨hcheck, hleads⟩ := locate_eq_ok_iff.mp hp
  refine locate_eq_ok_iff.mpr ⟨hcheck, ?_⟩
  rw [h.origin_eq]
  exact h.follow_eq_ok hfile hleads

end SameBut

/-! ## Setting one entry -/

theorem find?_replace {e : Entry} (hne : p ≠ q) (entries : List (Place × Entry)) :
    (entries.map fun x => if x.1 == q then (q, e) else x).find? (·.1 == p) =
      entries.find? (·.1 == p) := by
  induction entries with
  | nil => rfl
  | cons x entries ih =>
    rw [List.map_cons, List.find?_cons, List.find?_cons, ih]
    by_cases hx : x.1 = q
    · have hxp : (x.1 == p) = false := beq_eq_false_iff_ne.mpr fun hc => hne (hc.symm.trans hx)
      have hqp : (q == p) = false := beq_eq_false_iff_ne.mpr hne.symm
      rw [if_pos (beq_iff_eq.mpr hx), hxp, hqp]
    · rw [if_neg fun hc => hx (beq_iff_eq.mp hc)]

theorem find?_set_of_ne (e : Entry) (hne : p ≠ q) :
    (f.set q e).entries.find? (·.1 == p) = f.entries.find? (·.1 == p) := by
  unfold set
  dsimp only
  split
  · exact find?_replace hne f.entries
  · have hqp : (q == p) = false := beq_eq_false_iff_ne.mpr hne.symm
    rw [List.find?_append, List.find?_singleton, hqp]
    exact Option.or_none

/-- What is stored inside a place, as far as names tell. -/
theorem any_isPrefixOf_set (p q : Place) (e : Entry) :
    (f.set q e).entries.any (p.isPrefixOf ·.1) =
      (f.entries.any (p.isPrefixOf ·.1) || p.isPrefixOf q) := by
  unfold set
  dsimp only
  split
  · next hthere =>
    obtain ⟨x, hx, hxq⟩ := List.any_eq_true.mp hthere
    have hkeys : ∀ y : Place × Entry,
        p.isPrefixOf (if y.1 == q then (q, e) else y).1 = p.isPrefixOf y.1 := by
      intro y
      split
      · next hy => rw [beq_iff_eq.mp hy]
      · rfl
    rw [List.any_map, show ((p.isPrefixOf ·.1) ∘ fun y : Place × Entry =>
      if y.1 == q then (q, e) else y) = (p.isPrefixOf ·.1) from funext hkeys]
    cases hprefix : p.isPrefixOf q with
    | false => exact (Bool.or_false _).symm
    | true =>
      rw [Bool.or_true]
      exact List.any_eq_true.mpr ⟨x, hx, beq_iff_eq.mp hxq ▸ hprefix⟩
  · rw [List.any_append, List.any_cons, List.any_nil, Bool.or_false]

theorem find?_replace_self {e : Entry} {entries : List (Place × Entry)}
    (h : entries.any (·.1 == q) = true) :
    (entries.map fun x => if x.1 == q then (q, e) else x).find? (·.1 == q) = some (q, e) := by
  induction entries with
  | nil => cases h
  | cons x entries ih =>
    rw [List.map_cons, List.find?_cons]
    by_cases hx : x.1 = q
    · rw [if_pos (beq_iff_eq.mpr hx), beq_self_eq_true q]
    · have hxq : (x.1 == q) = false := beq_eq_false_iff_ne.mpr hx
      rw [List.any_cons, hxq, Bool.false_or] at h
      rw [hxq, if_neg Bool.false_ne_true, hxq]
      exact ih h

/-- What has been set is there, unless the working directory is there or inside. -/
theorem entryAt_set_self (e : Entry) (hfile : f.entryAt q ≠ some .directory) :
    (f.set q e).entryAt q = some e := by
  have hfind : (f.set q e).entries.find? (·.1 == q) = some (q, e) := by
    unfold set
    dsimp only
    split
    · next hthere => exact find?_replace_self hthere
    · next hnew =>
      have hnone : f.entries.find? (·.1 == q) = none := by
        refine List.find?_eq_none.mpr fun x hx hc => hnew ?_
        exact List.any_eq_true.mpr ⟨x, hx, hc⟩
      rw [List.find?_append, List.find?_singleton, hnone, if_pos (beq_self_eq_true q)]
      rfl
  have houtside : ¬ q.isPrefixOf (f.set q e).workingDirectory = true :=
    fun hc => hfile (if_pos hc)
  rw [entryAt, if_neg houtside, hfind]

/-- Around a directory something is stored everywhere, or it is around the working directory. -/
theorem stored_around (h : f.entryAt q = some .directory) (hp : p <+: q) :
    p.isPrefixOf f.workingDirectory = true ∨ f.entries.any (p.isPrefixOf ·.1) = true := by
  have hinside : ∀ x ∈ f.entries, q <+: x.1 → f.entries.any (p.isPrefixOf ·.1) = true :=
    fun x hx hq =>
      List.any_eq_true.mpr ⟨x, hx, List.isPrefixOf_iff_prefix.mpr (hp.trans hq)⟩
  unfold entryAt at h
  split at h
  · next hworking =>
    have hq : q <+: f.workingDirectory := List.isPrefixOf_iff_prefix.mp hworking
    exact Or.inl (List.isPrefixOf_iff_prefix.mpr (hp.trans hq))
  · split at h
    · next x hx =>
      have hkey : x.1 = q := by simpa using List.find?_some hx
      exact Or.inr (hinside x (List.mem_of_find?_eq_some hx) (hkey ▸ List.prefix_rfl))
    · split at h
      · next hany =>
        obtain ⟨x, hx, hxq⟩ := List.any_eq_true.mp hany
        exact Or.inr (hinside x hx (List.isPrefixOf_iff_prefix.mp hxq))
      · cases h

/-- **Setting an entry in a directory leaves every other place as it was.** -/
theorem sameBut_set (e : Entry) (hdir : f.entryAt q = some .directory) :
    f.SameBut (f.set (q ++ [name]) e) (q ++ [name]) where
  workingDirectory := rfl
  refusals := rfl
  entryAt p hne := by
    show (if p.isPrefixOf f.workingDirectory then _ else _) = _
    unfold entryAt
    rw [find?_set_of_ne e hne, any_isPrefixOf_set]
    split
    · rfl
    · next houtside =>
      split
      · rfl
      · by_cases hprefix : p <+: q ++ [name]
        · -- a place around the new entry
          have haround : p <+: q := by
            rcases List.prefix_concat_iff.mp hprefix with rfl | h
            · exact absurd rfl hne
            · exact h
          have hstored := (stored_around hdir haround).resolve_left houtside
          rw [hstored, Bool.true_or]
        · have hfalse : p.isPrefixOf (q ++ [name]) = false :=
            Bool.eq_false_iff.mpr fun hc => hprefix (List.isPrefixOf_iff_prefix.mp hc)
          rw [hfalse, Bool.or_false]

/-! ## A write -/

/-- A path whose last name is that of a file does not end in a slash. -/
theorem last_name {before : List String}
    (htrimmed : names.reverse.dropWhile (· = "") = name :: before)
    (hproper : namesDirectory (names.getLast?.getD "") = false) :
    names = before.reverse ++ [name] ∧ namesDirectory name = false := by
  rcases List.eq_nil_or_concat names with rfl | ⟨front, last, rfl⟩
  · cases htrimmed
  · rw [List.concat_eq_append] at htrimmed hproper ⊢
    rw [List.getLast?_concat, Option.getD_some] at hproper
    have hne : last ≠ "" := by
      rintro rfl
      exact absurd hproper (by decide)
    rw [List.reverse_append, List.reverse_singleton, List.singleton_append,
      List.dropWhile_cons_of_neg (by simpa using hne)] at htrimmed
    cases htrimmed
    rw [List.reverse_reverse]
    exact ⟨rfl, hproper⟩

/-- What it takes to set the text of a name in a directory, and what becomes of the store: the name
    leads to no directory, its place allows it, and so does the directory if the name is new. -/
theorem put_eq_ok_iff : f.put p name text = .ok g ↔
    ∃ q, f.enter p name = .ok q ∧ f.entryAt q ≠ some .directory ∧
      (f.entryAt q = none → f.allow .write p = .ok ()) ∧ f.allow .write q = .ok () ∧
      f.set q (.text text) = g := by
  rw [put, bind_eq_ok_iff]
  refine exists_congr fun q => and_congr_right fun _ => ?_
  rcases f.entryAt q with _ | _ | s | _
  · simp [check_bind_eq_ok_iff]
  · simp
  · simp [check_bind_eq_ok_iff]
  · simp [check_bind_eq_ok_iff]

/-- **What a write needs, and what it does**: all names but the last one lead to a directory, the
    last one leads to a place in it where a text can be set, and there it is set. -/
theorem write_eq_ok_iff : f.write path text = .ok g ↔
    ∃ before name p, checkPath path = .ok () ∧ namesOf path = before ++ [name] ∧
      namesDirectory name = false ∧ f.follow (f.origin path) before = .ok p ∧
      f.put p name text = .ok g := by
  rw [write, check_bind_eq_ok_iff]
  dsimp only
  constructor
  · rintro ⟨hcheck, h⟩
    split at h
    · cases h
    · next name before htrimmed =>
      obtain ⟨p, hp, h⟩ := bind_eq_ok_iff.mp h
      split at h
      · cases h
      · next hproper =>
        obtain ⟨hnames, hlast⟩ := last_name htrimmed (Bool.eq_false_iff.mpr hproper)
        obtain ⟨d, hd, hstay⟩ := follow_append_eq_ok_iff.mp hp
        obtain ⟨_, _, rfl⟩ := enter_eq_ok_iff.mp (follow_singleton.symm.trans hstay)
        exact ⟨before.reverse, name, d, hcheck, hnames, hlast, hd, h⟩
  · rintro ⟨before, name, p, hcheck, hnames, hproper, hd, h⟩
    refine ⟨hcheck, ?_⟩
    have hne : name ≠ "" := by
      rintro rfl
      exact absurd hproper (by decide)
    have htrimmed : (before ++ [name]).reverse.dropWhile (· = "") = name :: before.reverse := by
      rw [List.reverse_append, List.reverse_singleton, List.singleton_append,
        List.dropWhile_cons_of_neg (by simpa using hne)]
    -- whoever looks up the last name has entered its directory
    obtain ⟨q, hq, _⟩ := put_eq_ok_iff.mp h
    obtain ⟨hdir, hallowed, _⟩ := enter_eq_ok_iff.mp hq
    have hstay : f.follow p ["."] = .ok p := follow_singleton.trans
      (enter_eq_ok_iff.mpr ⟨hdir, fun _ => ⟨(hallowed hne).1, by decide⟩, rfl⟩)
    have hd' : f.follow (f.origin path) (before ++ ["."]) = .ok p :=
      follow_append_eq_ok_iff.mpr ⟨p, hd, hstay⟩
    rw [hnames, htrimmed]
    simp only [List.reverse_reverse, hd', List.getLast?_concat, Option.getD_some, hproper,
      Bool.false_eq_true, if_false]
    exact h

/-- **A write that succeeds changes one place.**  The path leads there before and after, the file
    there holds the text that was written, and everything else is as it was. -/
theorem write_ok (h : f.write path text = .ok g) :
    ∃ p, f.locate path = .ok p ∧ g.locate path = .ok p ∧ g.entryAt p = some (.text text) ∧
      f.SameBut g p := by
  obtain ⟨before, name, p, hcheck, hnames, hproper, hbefore, h⟩ := write_eq_ok_iff.mp h
  obtain ⟨q, hname, hfile, _, _, rfl⟩ := put_eq_ok_iff.mp h
  obtain ⟨hdir, _, rfl⟩ := enter_eq_ok_iff.mp hname
  rw [step_of_proper hproper] at hname hfile ⊢
  have hsame : f.SameBut (f.set (p ++ [name]) (.text text)) (p ++ [name]) :=
    sameBut_set (.text text) hdir
  have hleads : f.locate path = .ok (p ++ [name]) := by
    refine locate_eq_ok_iff.mpr ⟨hcheck, ?_⟩
    rw [hnames]
    exact follow_append_eq_ok_iff.mpr ⟨p, hbefore, follow_singleton.trans hname⟩
  exact ⟨p ++ [name], hleads, hsame.locate_eq_ok hfile hleads, entryAt_set_self _ hfile, hsame⟩

theorem holds_of_write (h : f.write path text = .ok g) : g.Holds path text := by
  obtain ⟨p, _, hp, hholds, _⟩ := write_ok h
  exact ⟨p, hp, hholds⟩

end Files
end SampleSchema
