import TestScribe.Proofs.Source.AnnotatedList
/-!
Parameter lists that are put together again from their names.  The names are joined by commas
and cut apart at the same places, whatever brackets the first list leaves open or closes too
often.  A second reading changes a name only where the first one leaves it a marker: where the
marker stands twice with blanks between.
-/

namespace TestScribe

namespace Source

section Parts

/-- Parts that commas between them hold apart: no comma of a part stands outside brackets, and
only the last part may leave brackets open. -/
structure AreParts (parts : List (List Char)) : Prop where
  shields : ∀ part ∈ parts, Shields (· == ',') 0 none part
  closed : ∀ part ∈ parts.dropLast, depthAfter 0 none part ≤ 0

theorem areParts_of_isCut {depth : Int} {before : Option Char} {text : List Char}
    {parts : List (List Char)} (hcut : IsCut (· == ',') depth before text parts)
    (hdepth : depth = 0) (hbefore : before ≠ some '=') : AreParts parts := by
  induction hcut with
  | last hshields =>
      subst hdepth
      rw [shields_of_ne_equal hbefore] at hshields
      exact ⟨List.forall_mem_singleton.mpr hshields, List.forall_mem_nil _⟩
  | next hshields hclosed hmark hrest ih =>
      subst hdepth
      rw [shields_of_ne_equal hbefore] at hshields
      rw [depthAfter_of_ne_equal hbefore] at hclosed
      obtain rfl := eq_of_beq hmark
      have hothers := ih rfl (by simp)
      refine ⟨List.forall_mem_cons.mpr ⟨hshields, hothers.shields⟩, ?_⟩
      rw [List.dropLast_cons_of_ne_nil (by cases hrest <;> simp)]
      exact List.forall_mem_cons.mpr ⟨hclosed, hothers.closed⟩

/-- The parts that a list is cut into. -/
theorem areParts_splitTopLevel (list : List Char) :
    AreParts (splitTopLevel (· == ',') list) :=
  areParts_of_isCut ((splitFrom_eq_iff depthStep_comma).mp rfl) rfl none_ne_equal

theorem AreParts.map {parts : List (List Char)} (hparts : AreParts parts)
    {change : List Char → List Char}
    (hshields : ∀ part, Shields (· == ',') 0 none part → Shields (· == ',') 0 none (change part))
    (hclosed : ∀ part, depthAfter 0 none part ≤ 0 → depthAfter 0 none (change part) ≤ 0) :
    AreParts (parts.map change) where
  shields := List.forall_mem_map.mpr fun part hpart => hshields part (hparts.shields part hpart)
  closed := by
    rw [← List.map_dropLast]
    exact List.forall_mem_map.mpr fun part hpart => hclosed part (hparts.closed part hpart)

theorem mem_dropLast_of_filter {parts : List (List Char)} {keep : List Char → Bool}
    {part : List Char} (hpart : part ∈ (parts.filter keep).dropLast) : part ∈ parts.dropLast := by
  rcases List.eq_nil_or_concat parts with rfl | ⟨front, last, rfl⟩
  · exact hpart
  · rw [List.concat_eq_append] at hpart ⊢
    rw [List.filter_append] at hpart
    rw [List.dropLast_concat]
    cases hkeep : keep last with
    | false =>
        rw [List.filter_cons_of_neg (by simp [hkeep]), List.filter_nil, List.append_nil] at hpart
        exact List.mem_of_mem_filter (List.dropLast_subset _ hpart)
    | true =>
        rw [List.filter_cons_of_pos hkeep, List.filter_nil, List.dropLast_concat] at hpart
        exact List.mem_of_mem_filter hpart

theorem AreParts.filter {parts : List (List Char)} (hparts : AreParts parts)
    (keep : List Char → Bool) : AreParts (parts.filter keep) where
  shields part hpart := hparts.shields part (List.mem_of_mem_filter hpart)
  closed part hpart := hparts.closed part (mem_dropLast_of_filter hpart)

theorem depthStep_of_isBlank {c : Char} (hc : Text.isBlank c = true) :
    ∀ before, depthStep before c = 0 :=
  (isPlain_of_notMem_signs isSign_comma (notMem_signs_of_isBlank hc)).2

/-- No arrow begins with a blank. -/
theorem getLast?_blank_ne_equal {blank : List Char} (hblank : ∀ c ∈ blank, Text.isBlank c = true)
    {before : Option Char} (hbefore : before ≠ some '=') :
    blank.getLast?.or before ≠ some '=' := by
  cases hlast : blank.getLast? with
  | none => exact hbefore
  | some c =>
      rintro hequal
      obtain rfl : c = '=' := Option.some.inj hequal
      cases hblank _ (List.mem_of_getLast? hlast)

theorem shields_blank_append {isSeparator : Char → Bool}
    (hsigns : ∀ c, isSeparator c = true → c ∈ signs) {blank text : List Char}
    (hblank : ∀ c ∈ blank, Text.isBlank c = true) {before : Option Char}
    (hbefore : before ≠ some '=') :
    Shields isSeparator 0 before (blank ++ text) ↔ Shields isSeparator 0 none text := by
  have hneutral := isNeutral_blank hsigns hblank
  have hlast := getLast?_blank_ne_equal hblank hbefore
  rw [shields_append, hneutral.closed, shields_of_ne_equal hlast]
  exact and_iff_right (hneutral.shields before)

theorem depthAfter_blank_append {blank text : List Char}
    (hblank : ∀ c ∈ blank, Text.isBlank c = true) {before : Option Char}
    (hbefore : before ≠ some '=') :
    depthAfter 0 before (blank ++ text) = depthAfter 0 none text := by
  have hlast := getLast?_blank_ne_equal hblank hbefore
  rw [depthAfter_append, depthAfter_of_steps fun c hc => depthStep_of_isBlank (hblank c hc),
    depthAfter_of_ne_equal hlast]

end Parts

section Names

/-- The head of an entry shields its marks, and is closed unless it is the entry. -/
theorem entryHead_cut (entry : List Char) :
    Shields (fun c => c == ':' || c == '=') 0 none (entryHead entry) ∧
      (entryHead entry = entry ∨
        depthAfter 0 none (entryHead entry) ≤ 0 ∧ entryHead entry <+: entry) := by
  have hcut := (splitFrom_eq_iff depthStep_mark).mp
    (rfl : splitTopLevel (fun c => c == ':' || c == '=') entry = _)
  rw [entryHead]
  generalize splitTopLevel (fun c => c == ':' || c == '=') entry = parts at hcut
  cases hcut with
  | last hshields => exact ⟨hshields, .inl rfl⟩
  | next hshields hclosed _ _ => exact ⟨hshields, .inr ⟨hclosed, List.prefix_append _ _⟩⟩

theorem shields_entryHead {entry : List Char} (hentry : Shields (· == ',') 0 none entry) :
    Shields (· == ',') 0 none (entryHead entry) := by
  rcases (entryHead_cut entry).2 with hwhole | ⟨-, rest, hrest⟩
  · rwa [hwhole]
  · rw [← hrest] at hentry
    exact (shields_append.mp hentry).1

theorem closed_entryHead {entry : List Char} (hentry : depthAfter 0 none entry ≤ 0) :
    depthAfter 0 none (entryHead entry) ≤ 0 := by
  rcases (entryHead_cut entry).2 with hwhole | ⟨hclosed, -⟩
  · rwa [hwhole]
  · exact hclosed

/-- What is left of a name without the markers at its end. -/
def unmarked (name : List Char) : List Char := Text.trim (Text.dropTail (· == '?') name)

theorem entryName_eq (entry : List Char) : entryName entry = unmarked (Text.trim (entryHead entry)) :=
  rfl

/-- A head with its name: there are blanks in front of it, and behind it markers with blanks on
both sides. -/
structure Surrounds (head name before gap markers after : List Char) : Prop where
  head_eq : head = before ++ (name ++ (gap ++ (markers ++ after)))
  before_blank : ∀ c ∈ before, Text.isBlank c = true
  gap_blank : ∀ c ∈ gap, Text.isBlank c = true
  markers_eq : ∀ c ∈ markers, c = '?'
  after_blank : ∀ c ∈ after, Text.isBlank c = true
  /-- A marker is left at the end of the name only where blanks follow it. -/
  gap_ne_nil : name.getLast? = some '?' → gap ≠ []
  markers_ne_nil : gap ≠ [] → markers ≠ []

theorem exists_surrounds (head : List Char) :
    ∃ before gap markers after,
      Surrounds head (unmarked (Text.trim head)) before gap markers after := by
  obtain ⟨before, after, hbefore, hafter, hhead⟩ := Text.exists_trim_between head
  obtain ⟨markers, hmarkers, htrimmed⟩ := Text.exists_dropTail_append (· == '?') (Text.trim head)
  obtain ⟨lead, gap, hlead, hgap, hmarked⟩ :=
    Text.exists_trim_between (Text.dropTail (· == '?') (Text.trim head))
  rw [← unmarked] at hmarked
  refine ⟨before ++ lead, gap, markers, after, ?_, List.forall_mem_append.mpr ⟨hbefore, hlead⟩,
    hgap, fun c hc => eq_of_beq (hmarkers c hc), hafter, ?_, ?_⟩
  · calc head
        = before ++ (Text.trim head ++ after) := hhead
      _ = before ++ (lead ++ (unmarked (Text.trim head) ++ gap) ++ markers ++ after) := by
            rw [← hmarked, ← htrimmed]
      _ = before ++ lead ++ (unmarked (Text.trim head) ++ (gap ++ (markers ++ after))) := by
            simp only [List.append_assoc]
  · rintro hlast rfl
    have hkept : (Text.dropTail (· == '?') (Text.trim head)).getLast? = some '?' := by
      rw [hmarked, List.append_nil, List.getLast?_append, hlast]
      rfl
    cases Text.dropTail_getLast? _ hkept
  · -- without markers the trimmed head would end with the blanks
    rintro hne rfl
    obtain ⟨c, hc⟩ := Option.ne_none_iff_exists'.mp (mt List.getLast?_eq_none_iff.mp hne)
    have hend : (Text.trim head).getLast? = some c := by
      rw [htrimmed, hmarked, List.append_nil, ← List.append_assoc,
        List.getLast?_append_of_ne_nil _ hne, hc]
    cases (hgap c (List.mem_of_getLast? hc)).symm.trans ((Text.isTrimmed_trim head).stop c hend)

/-- Around the name of an entry its head has nothing but blanks and markers. -/
theorem exists_around_entryName (entry : List Char) :
    ∃ before after, (∀ c ∈ before, Text.isBlank c = true) ∧
      (∀ c ∈ after, Text.isBlank c = true ∨ c = '?') ∧
      entryHead entry = before ++ (entryName entry ++ after) := by
  obtain ⟨before, gap, markers, after, hname⟩ := exists_surrounds (entryHead entry)
  refine ⟨before, gap ++ (markers ++ after), hname.before_blank, ?_, hname.head_eq⟩
  simp only [List.forall_mem_append]
  exact ⟨fun c hc => .inl (hname.gap_blank c hc), fun c hc => .inr (hname.markers_eq c hc),
    fun c hc => .inl (hname.after_blank c hc)⟩

/-- What a head shields its name shields too. -/
theorem shields_entryName {isSeparator : Char → Bool}
    (hsigns : ∀ c, isSeparator c = true → c ∈ signs) {entry : List Char}
    (hhead : Shields isSeparator 0 none (entryHead entry)) :
    Shields isSeparator 0 none (entryName entry) := by
  obtain ⟨before, after, hbefore, -, hsplit⟩ := exists_around_entryName entry
  rw [hsplit, shields_blank_append hsigns hbefore none_ne_equal] at hhead
  exact (shields_append.mp hhead).1

theorem depthAfter_entryName (entry : List Char) :
    depthAfter 0 none (entryName entry) = depthAfter 0 none (entryHead entry) := by
  obtain ⟨before, after, hbefore, hafter, hsplit⟩ := exists_around_entryName entry
  have hsteps : ∀ c ∈ after, ∀ before, depthStep before c = 0 := by
    intro c hc
    rcases hafter c hc with hblank | rfl
    · exact depthStep_of_isBlank hblank
    · exact fun _ => rfl
  rw [hsplit, depthAfter_blank_append hbefore none_ne_equal, depthAfter_append,
    depthAfter_of_steps hsteps]

/-- The names of a list can be held apart by commas. -/
theorem areParts_parameterNames (list : List Char) : AreParts (parameterNames list) := by
  refine ((areParts_splitTopLevel list).map ?_ ?_).filter _
  · exact fun entry hentry => shields_entryName isSign_comma (shields_entryHead hentry)
  · exact fun entry hentry => (depthAfter_entryName entry).trans_le (closed_entryHead hentry)

/-- No mark of a name stands outside brackets. -/
theorem shields_of_mem_parameterNames {list name : List Char} (hname : name ∈ parameterNames list) :
    Shields (fun c => c == ':' || c == '=') 0 none name := by
  obtain ⟨hmem, -⟩ := List.mem_filter.mp hname
  obtain ⟨entry, -, rfl⟩ := List.mem_map.mp hmem
  exact shields_entryName isSign_mark (entryHead_cut entry).1

end Names

section Joining

def joinNames (names : List (List Char)) : List Char := ", ".toList.intercalate names

/-- Names that are joined are cut apart again. -/
theorem isCut_joinNames {lead first : List Char} {others : List (List Char)}
    (hlead : ∀ c ∈ lead, Text.isBlank c = true) (hnames : AreParts (first :: others))
    {before : Option Char} (hbefore : before ≠ some '=') :
    IsCut (· == ',') 0 before (lead ++ joinNames (first :: others))
      ((lead ++ first) :: others.map (' ' :: ·)) := by
  induction others generalizing lead first before with
  | nil =>
      have hfirst := hnames.shields first List.mem_cons_self
      rw [joinNames, List.intercalate_singleton]
      exact .last ((shields_blank_append isSign_comma hlead hbefore).mpr hfirst)
  | cons next others ih =>
      obtain ⟨hshields, hclosed⟩ := hnames
      rw [List.dropLast_cons_of_ne_nil (List.cons_ne_nil next others)] at hclosed
      obtain ⟨hfirst, hmore⟩ := List.forall_mem_cons.mp hshields
      obtain ⟨hend, hothers⟩ := List.forall_mem_cons.mp hclosed
      have hrest := @ih [' '] next (by decide) ⟨hmore, hothers⟩ (some ',') (by simp)
      have htext : lead ++ joinNames (first :: next :: others) =
          lead ++ first ++ ',' :: ([' '] ++ joinNames (next :: others)) := by
        simp [joinNames, List.intercalate_cons_cons]
      rw [← depthAfter_blank_append hlead hbefore] at hend
      rw [htext]
      exact .next ((shields_blank_append isSign_comma hlead hbefore).mpr hfirst) hend rfl hrest

/-- A name that is read again, perhaps behind blanks, loses its marker at most. -/
theorem entryName_again {lead name : List Char} (hlead : ∀ c ∈ lead, Text.isBlank c = true)
    (htrimmed : Text.IsTrimmed name)
    (hshields : Shields (fun c => c == ':' || c == '=') 0 none name) :
    entryName (lead ++ name) = unmarked name := by
  have hwhole := (shields_blank_append isSign_mark hlead none_ne_equal).mpr hshields
  have htrim := htrimmed.trim_between hlead (List.forall_mem_nil _)
  rw [List.append_nil] at htrim
  rw [entryName, entryHead, splitTopLevel, splitFrom_of_shields hwhole, List.head?_cons,
    Option.getD_some, htrim, unmarked]

/-- Read again, the names of a list are the same but for markers; those that consist of a marker
are lost. -/
theorem parameterNames_joinNames (list : List Char) :
    parameterNames (joinNames (parameterNames list)) =
      ((parameterNames list).map unmarked).filter (!·.isEmpty) := by
  have hparts := areParts_parameterNames list
  have hagain : ∀ lead, (∀ c ∈ lead, Text.isBlank c = true) → ∀ name ∈ parameterNames list,
      entryName (lead ++ name) = unmarked name := fun lead hlead name hname =>
    entryName_again hlead (mem_parameterNames hname).2.1 (shields_of_mem_parameterNames hname)
  generalize parameterNames list = names at hparts hagain
  cases names with
  | nil => rfl
  | cons first others =>
      have hcut := isCut_joinNames (List.forall_mem_nil _) hparts none_ne_equal
      have hsplit := (splitFrom_eq_iff depthStep_comma).mpr hcut
      have hfirst := hagain [] (List.forall_mem_nil _) first List.mem_cons_self
      have hothers : (others.map (' ' :: ·)).map entryName = others.map unmarked := by
        rw [List.map_map, List.map_inj_left]
        exact fun name hname => hagain [' '] (by decide) name (List.mem_cons_of_mem first hname)
      rw [List.nil_append] at hsplit
      rw [parameterNames, splitTopLevel, hsplit, List.map_cons, List.map_cons, hfirst, hothers]

end Joining

section Markers

/-- The marker stands once more at the end, with blanks between. -/
def IsMarkedAgain (head : List Char) : Prop :=
  ∃ front gap markers after, head = front ++ '?' :: (gap ++ (markers ++ after)) ∧
    gap ≠ [] ∧ (∀ c ∈ gap, Text.isBlank c = true) ∧
    markers ≠ [] ∧ (∀ c ∈ markers, c = '?') ∧ ∀ c ∈ after, Text.isBlank c = true

theorem isMarkedAgain_of_getLast? {head : List Char}
    (hlast : (unmarked (Text.trim head)).getLast? = some '?') : IsMarkedAgain head := by
  obtain ⟨before, gap, markers, after, hname⟩ := exists_surrounds head
  obtain ⟨front, hfront⟩ := List.getLast?_eq_some_iff.mp hlast
  have hgap := hname.gap_ne_nil hlast
  refine ⟨before ++ front, gap, markers, after, ?_, hgap, hname.gap_blank,
    hname.markers_ne_nil hgap, hname.markers_eq, hname.after_blank⟩
  rw [hname.head_eq, hfront]
  simp only [List.append_assoc, List.singleton_append]

/-- Of what stands behind blanks at the end only the markers and the blanks are taken. -/
theorem unmarked_trim_between {before name gap markers after : List Char}
    (hbefore : ∀ c ∈ before, Text.isBlank c = true) (hname : Text.IsTrimmed name)
    (hnonempty : name ≠ []) (hgap : ∀ c ∈ gap, Text.isBlank c = true) (hgapNe : gap ≠ [])
    (hmarkers : ∀ c ∈ markers, c = '?') (hmarkersNe : markers ≠ [])
    (hafter : ∀ c ∈ after, Text.isBlank c = true) :
    unmarked (Text.trim (before ++ (name ++ (gap ++ (markers ++ after))))) = name := by
  have hmarked : Text.IsTrimmed (name ++ gap ++ markers) := by
    constructor
    · rw [List.append_assoc, List.head?_append_of_ne_nil _ hnonempty]
      exact hname.start
    · rw [List.getLast?_append_of_ne_nil _ hmarkersNe]
      intro c hc
      obtain rfl := hmarkers c (List.mem_of_getLast? hc)
      rfl
  have hgapLast : ∀ c ∈ (name ++ gap).getLast?, (c == '?') = false := by
    rw [List.getLast?_append_of_ne_nil _ hgapNe]
    intro c hc
    have hblank := hgap c (List.mem_of_getLast? hc)
    exact beq_eq_false_iff_ne.mpr (by rintro rfl; cases hblank)
  have hwhole : before ++ (name ++ (gap ++ (markers ++ after))) =
      before ++ (name ++ gap ++ markers ++ after) := by
    simp only [List.append_assoc]
  rw [hwhole, hmarked.trim_between hbefore hafter, unmarked,
    Text.dropTail_behind hgapLast fun c hc => beq_iff_eq.mpr (hmarkers c hc)]
  exact hname.trim_between (List.forall_mem_nil _) hgap

theorem IsMarkedAgain.getLast?_unmarked {head : List Char} (hhead : IsMarkedAgain head) :
    (unmarked (Text.trim head)).getLast? = some '?' := by
  obtain ⟨front, gap, markers, after, rfl, hgapNe, hgap, hmarkersNe, hmarkers, hafter⟩ := hhead
  -- the name is what is in front of the blanks, without those it begins with
  obtain ⟨before, hbefore, hfront⟩ := Text.exists_append_trimStart front
  have hname : Text.IsTrimmed (Text.trimStart front ++ ['?']) := by
    refine ⟨fun c hc => ?_, by simp +decide⟩
    rw [List.head?_append, Option.mem_def, Option.or_eq_some_iff] at hc
    rcases hc with hfirst | ⟨-, hmarker⟩
    · exact Text.head?_trimStart c hfirst
    · cases hmarker
      rfl
  have hhead : front ++ '?' :: (gap ++ (markers ++ after)) =
      before ++ (Text.trimStart front ++ ['?'] ++ (gap ++ (markers ++ after))) := by
    conv_lhs => rw [hfront]
    simp only [List.append_assoc, List.singleton_append]
  rw [hhead, unmarked_trim_between hbefore hname (List.append_ne_nil_of_right_ne_nil _ (by simp))
    hgap hgapNe hmarkers hmarkersNe hafter]
  exact List.getLast?_concat

/-- A cleaned name ends with a marker just if the marker stood once more behind it. -/
theorem getLast?_unmarked_trim_iff {head : List Char} :
    (unmarked (Text.trim head)).getLast? = some '?' ↔ IsMarkedAgain head :=
  ⟨isMarkedAgain_of_getLast?, IsMarkedAgain.getLast?_unmarked⟩

/-- A trimmed name is the same when it is read again just if it has no marker at its end. -/
theorem unmarked_eq_self_iff {name : List Char} (hname : Text.IsTrimmed name) :
    unmarked name = name ↔ name.getLast? ≠ some '?' := by
  constructor
  · intro hsame hlast
    -- trimming keeps a part, so the whole name stays where its marker is dropped
    have hwhole : Text.dropTail (· == '?') name = name := by
      have hpart := (Text.trim_isInfix (Text.dropTail (· == '?') name)).length_le
      rw [← unmarked, hsame] at hpart
      exact (Text.dropTail_isPrefix _ name).eq_of_length_le hpart
    rw [← hwhole] at hlast
    cases Text.dropTail_getLast? _ hlast
  · intro hlast
    have hkept : ∀ c ∈ name.getLast?, (c == '?') = false := by
      intro c hc
      exact beq_eq_false_iff_ne.mpr fun hmarker => hlast (hmarker ▸ hc)
    have hwhole := Text.dropTail_behind hkept (List.forall_mem_nil _)
    rw [List.append_nil] at hwhole
    rw [unmarked, hwhole, hname.trim_eq]

/-- Names stay what they are in a second reading just if each of them does. -/
theorem filter_map_unmarked_eq_iff {names : List (List Char)} (hnames : ∀ name ∈ names, name ≠ []) :
    (names.map unmarked).filter (!·.isEmpty) = names ↔ ∀ name ∈ names, unmarked name = name := by
  constructor
  · intro hsame
    have hlength : (names.map unmarked).length ≤ ((names.map unmarked).filter (!·.isEmpty)).length := by
      rw [hsame, List.length_map]
    have hall := List.filter_sublist.eq_of_length_le hlength
    rw [hsame] at hall
    exact List.map_inj_left.mp (hall.symm.trans (List.map_id names).symm)
  · intro hsame
    rw [List.map_inj_left.mpr hsame, List.map_id']
    exact List.filter_eq_self.mpr fun name hname => by simpa using hnames name hname

theorem forall_unmarked_parameterNames_iff (list : List Char) :
    (∀ name ∈ parameterNames list, unmarked name = name) ↔
      ∀ entry ∈ splitTopLevel (· == ',') list, ¬ IsMarkedAgain (entryHead entry) := by
  constructor
  · intro hnames entry hentry hmarked
    have hlast := getLast?_unmarked_trim_iff.mpr hmarked
    have hname : entryName entry ∈ parameterNames list := by
      refine List.mem_filter.mpr ⟨List.mem_map_of_mem hentry, ?_⟩
      rw [entryName_eq]
      cases hnil : unmarked (Text.trim (entryHead entry)) with
      | nil => simp [hnil] at hlast
      | cons c rest => rfl
    exact (unmarked_eq_self_iff (mem_parameterNames hname).2.1).mp (hnames _ hname) hlast
  · intro hentries name hname
    rw [unmarked_eq_self_iff (mem_parameterNames hname).2.1]
    obtain ⟨hmem, -⟩ := List.mem_filter.mp hname
    obtain ⟨entry, hentry, rfl⟩ := List.mem_map.mp hmem
    exact fun hlast => hentries entry hentry (getLast?_unmarked_trim_iff.mp hlast)

end Markers

end Source

/-- The names of a list, joined and read again, are the same names but for markers.  They are
the same throughout just if no entry has the marker twice at the end of its head with blanks
between: of such a marker the first reading leaves one and the second takes it. -/
theorem parseParameters_joined (list : String) :
    parseParameters (", ".intercalate (parseParameters list)) =
        ((Source.parameterNames list.toList).map Source.unmarked |>.filter (!·.isEmpty)).map
          String.ofList ∧
      (parseParameters (", ".intercalate (parseParameters list)) = parseParameters list ↔
        ∀ entry ∈ Source.splitTopLevel (· == ',') list.toList,
          ¬ Source.IsMarkedAgain (Source.entryHead entry)) := by
  have hjoined : (", ".intercalate (parseParameters list)).toList =
      Source.joinNames (Source.parameterNames list.toList) := by
    simp [parseParameters, Source.joinNames, String.toList_intercalate]
  have hagain : parseParameters (", ".intercalate (parseParameters list)) =
      (((Source.parameterNames list.toList).map Source.unmarked).filter (!·.isEmpty)).map
        String.ofList := by
    rw [parseParameters, hjoined, Source.parameterNames_joinNames]
  have hnonempty : ∀ name ∈ Source.parameterNames list.toList, name ≠ [] :=
    fun name hname => (Source.mem_parameterNames hname).1
  refine ⟨hagain, ?_⟩
  rw [hagain, parseParameters, (List.map_injective_iff.mpr fun _ _ => String.ofList_injective).eq_iff,
    Source.filter_map_unmarked_eq_iff hnonempty, Source.forall_unmarked_parameterNames_iff]

/-- Of two markers with a blank between the first reading leaves `a ?`, and the second `a`. -/
theorem parseParameters_markedAgain :
    parseParameters (", ".intercalate (parseParameters "a ? ?")) ≠ parseParameters "a ? ?" := by
  decide

end TestScribe
