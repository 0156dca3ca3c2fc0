import RecordQuery.Proofs.Url.Reference

/-!
# Folders

What a web address looks like when it is read on its own. Its path is divided, and if its text
ends in a slash that belongs to no query or fragment, the last segment of the path is empty.
-/
namespace RecordQuery.Url

section Last

variable {α : Type} {isDropped : α → Bool} {text : List α} {c : α}

theorem dropWhile_ne_nil (h : text.getLast? = some c) (hc : isDropped c = false) :
    text.dropWhile isDropped ≠ [] := by
  rw [ne_eq, List.dropWhile_eq_nil_iff]
  intro hall
  have := hall c (List.mem_of_getLast? h)
  simp [hc] at this

theorem getLast?_dropWhile (h : text.getLast? = some c) (hne : text.dropWhile isDropped ≠ []) :
    (text.dropWhile isDropped).getLast? = some c := by
  have hsplit := List.takeWhile_append_dropWhile (p := isDropped) (l := text)
  rw [← hsplit, List.getLast?_append_of_ne_nil _ hne] at h
  exact h

end Last

variable {text : List Char}

theorem getLast?_clean (h : text.getLast? = some '/') : (clean text).getLast? = some '/' := by
  have hne : text.dropWhile isControlOrSpace ≠ [] := dropWhile_ne_nil h (by decide)
  obtain ⟨front, hfront⟩ := List.getLast?_eq_some_iff.mp (getLast?_dropWhile h hne)
  have htrim : trim text = front ++ ['/'] := by
    rw [trim, hfront, List.reverse_append, List.reverse_singleton, List.singleton_append,
      List.dropWhile_cons_of_neg (by decide), List.reverse_cons, List.reverse_reverse]
  rw [clean, htrim, List.filter_append]
  simp [isTabOrNewline]

theorem splitScheme?_rest {scheme rest : List Char}
    (h : splitScheme? text = some (scheme, rest)) (hlast : text.getLast? = some '/') :
    rest.getLast? = some '/' := by
  unfold splitScheme? at h
  split at h
  · split at h
    · next rest' hd =>
      obtain ⟨-, rfl⟩ := Prod.mk.inj (Option.some.inj h)
      have hl : (text.dropWhile isSchemeChar).getLast? = some '/' :=
        getLast?_dropWhile hlast (by simp [hd])
      rw [hd] at hl
      cases rest' with
      | nil => simp at hl
      | cons d rest' => simpa using hl
    · contradiction
  · contradiction

theorem cut_snd_eq_none {c : Char} (h : (cut c text).2 = none) : (cut c text).1 = text := by
  unfold cut at h ⊢
  cases hd : text.dropWhile (· ≠ c) with
  | nil => rfl
  | cons d rest =>
    rw [hd] at h
    contradiction

/-- Without query and fragment nothing is cut off. -/
theorem Remainder.of_front (hq : (Remainder.of text).query = none)
    (hf : (Remainder.of text).fragment = none) : (Remainder.of text).front = text := by
  have hfragment : (cut '#' text).1 = text := cut_snd_eq_none hf
  have hquery : (cut '?' (cut '#' text).1).2 = none := hq
  rw [hfragment] at hquery
  change (cut '?' (cut '#' text).1).1 = text
  rw [hfragment, cut_snd_eq_none hquery]

theorem splitPath_snoc (special : Bool) (path : List Char) :
    splitPath special (path ++ ['/']) = splitPath special path ++ [[]] := by
  have hslash : isSlash special '/' = true := by simp [isSlash]
  simp [splitPath, hslash, List.splitOn_append_cons_self]

theorem resolveSegments_snoc (before pieces : List (List Char)) :
    ∃ folders, resolveSegments before (pieces ++ [[]]) = folders ++ [[]] := by
  induction pieces generalizing before with
  | nil => exact ⟨before, by simp [resolveSegments, isDoubleDot, isSingleDot, lowerEscapes, encode]⟩
  | cons piece pieces ih =>
    rw [List.cons_append, resolveSegments]
    exact ih _

/-- The path behind an authority, if it ends in a slash. -/
theorem absolutePath_folder {special : Bool} {path : List Char}
    (h : path.getLast? = some '/') (hs : path.head?.any (isSlash special)) :
    ∃ folders, absolutePath special path = .segments (folders ++ [[]]) := by
  cases path with
  | nil => simp at h
  | cons c rest =>
    have hc : isSlash special c = true := by simpa using hs
    simp only [absolutePath, hc, if_true, segmentsAfter]
    cases hrest : rest.getLast? with
    | none =>
      obtain rfl := List.getLast?_eq_none_iff.mp hrest
      refine ⟨[], ?_⟩
      simp [splitPath, resolveSegments, isDoubleDot, isSingleDot, lowerEscapes, encode]
    | some d =>
      obtain ⟨front, rfl⟩ := List.getLast?_eq_some_iff.mp hrest
      rw [← List.cons_append, List.getLast?_concat] at h
      obtain rfl := Option.some.inj h
      rw [splitPath_snoc]
      obtain ⟨folders, hfolders⟩ := resolveSegments_snoc [] (splitPath special front)
      exact ⟨folders, by rw [hfolders]⟩

theorem withAuthority?_eq {scheme front : List Char} {r : Remainder} {u : Url}
    (h : withAuthority? scheme front r = some u) :
    (∃ a, authority? scheme (front.takeWhile (!isSlash (isSpecial scheme) ·)) = some a) ∧
      u.location = absolutePath (isSpecial scheme)
        (front.dropWhile (!isSlash (isSpecial scheme) ·)) ∧
      u.scheme = scheme ∧ u.query = r.query.map (encodeQuery scheme) ∧
      u.fragment = r.fragment.map (encode fragmentSet) := by
  unfold withAuthority? at h
  obtain ⟨a, ha, h⟩ := Option.bind_eq_some_iff.mp h
  obtain rfl := Option.some.inj h
  exact ⟨⟨a, ha⟩, rfl, rfl, rfl, rfl⟩

/-- A host is needed where slashes are of no other use. -/
theorem authority?_nil {scheme : List Char} (h : isSpecial scheme) :
    authority? scheme [] = none := by
  simp [authority?, splitUserinfo, hostLength, h]

theorem fileWithHost?_scheme {front : List Char} {r : Remainder} {u : Url}
    (h : fileWithHost? front r = some u) : u.scheme = fileScheme := by
  simp only [fileWithHost?] at h
  split at h
  · obtain rfl := Option.some.inj h
    rfl
  · obtain ⟨a, -, h⟩ := Option.bind_eq_some_iff.mp h
    split at h <;> obtain rfl := Option.some.inj h <;> rfl

theorem file?_scheme {r : Remainder} {u : Url} (h : file? none r = some u) :
    u.scheme = fileScheme := by
  simp only [file?, Option.filter_none] at h
  split at h
  · obtain rfl := Option.some.inj h
    rfl
  · split at h
    · split at h
      · exact fileWithHost?_scheme h
      · obtain rfl := Option.some.inj h
        unfold fileFromRoot
        split
        · rfl
        · rfl
    · obtain rfl := Option.some.inj h
      rfl

theorem absolute?_scheme {scheme : List Char} {r : Remainder} {u : Url}
    (h : absolute? none scheme r = some u) : u.scheme = scheme := by
  unfold absolute? at h
  split at h
  · next hfile =>
    rw [file?_scheme h]
    exact (of_decide_eq_true hfile).symm
  · split at h
    · exact (withAuthority?_eq h).2.2.1
    · split at h
      · exact (withAuthority?_eq h).2.2.1
      · obtain rfl := Option.some.inj h
        rfl
      · obtain rfl := Option.some.inj h
        rfl

/-- How a web address comes about. -/
theorem parse?_web {address : String} {u : Url} (h : parse? address = some u) (hw : u.IsWeb) :
    ∃ rest, splitScheme? (clean address.toList) = some (u.scheme, rest) ∧
      withAuthority? u.scheme ((Remainder.of rest).front.dropWhile (isSlash true))
        (Remainder.of rest) = some u := by
  unfold parse? read? at h
  dsimp only at h
  split at h
  · next scheme rest hs =>
    obtain rfl := absolute?_scheme h
    refine ⟨rest, hs, ?_⟩
    simpa [absolute?, hw.isFile_eq_false, hw.isSpecial] using h
  · simp at h

theorem IsWeb.exists_segments {address : String} {u : Url} (h : parse? address = some u)
    (hw : u.IsWeb) : ∃ pieces, u.location = .segments pieces := by
  obtain ⟨rest, -, hu⟩ := parse?_web h hw
  obtain ⟨-, hl, -⟩ := withAuthority?_eq hu
  rw [hl, hw.isSpecial]
  unfold absolutePath
  split
  · exact ⟨_, rfl⟩
  · exact ⟨_, rfl⟩

/-- An address that ends in a slash is that of a folder. -/
theorem IsWeb.exists_folders {address : String} {u : Url} (h : parse? address = some u)
    (hw : u.IsWeb) (hlast : address.toList.getLast? = some '/') (hq : u.query = none)
    (hf : u.fragment = none) : ∃ folders, u.location = .segments (folders ++ [[]]) := by
  obtain ⟨rest, hs, hu⟩ := parse?_web h hw
  obtain ⟨⟨a, ha⟩, hl, -, hquery, hfragment⟩ := withAuthority?_eq hu
  have hfront : (Remainder.of rest).front = rest :=
    Remainder.of_front (Option.map_eq_none_iff.mp (hquery.symm.trans hq))
      (Option.map_eq_none_iff.mp (hfragment.symm.trans hf))
  have hrest : rest.getLast? = some '/' := splitScheme?_rest hs (getLast?_clean hlast)
  rw [hfront, hw.isSpecial] at hl ha
  -- there is a host behind the slashes, so not all of the rest is slashes
  have hne : rest.dropWhile (isSlash true) ≠ [] := by
    intro hnil
    rw [hnil, List.takeWhile_nil, authority?_nil hw.isSpecial] at ha
    contradiction
  have hhost := getLast?_dropWhile hrest hne
  have hpath : (rest.dropWhile (isSlash true)).dropWhile (!isSlash true ·) ≠ [] :=
    dropWhile_ne_nil hhost (by decide)
  obtain ⟨c, path, hc⟩ := List.exists_cons_of_ne_nil hpath
  have hslash : isSlash true c := by
    have := List.head?_dropWhile_not (!isSlash true ·) (rest.dropWhile (isSlash true))
    rw [hc] at this
    simpa using this
  have hhead : ((rest.dropWhile (isSlash true)).dropWhile (!isSlash true ·)).head?.any
      (isSlash true) := by simp [hc, hslash]
  obtain ⟨folders, hfolders⟩ := absolutePath_folder (getLast?_dropWhile hhost hpath) hhead
  exact ⟨folders, by rw [hl, hfolders]⟩

end RecordQuery.Url
