/-
  File:      DovecotCeph/DictRados/InitUri.lean
  Subject:   The properties in the URI of a dictionary (`rados_dict_init` in dict-rados.cpp).

  Each property is recognised by its name, and its value is cut off behind as many characters as a
  number in the code says. For `dict_user_name=` that number is the length of the name and one.
  * `prop_text`: what one property does; `parse_parts`: what a list of properties does;
  * `foldlM_invalid`: what a URI with a segment that is no property does;
  * **`dict_uri_iff`**: which URIs are read as they are written.
-/
import DovecotCeph.DictRados
import DovecotCeph.Lib.Stream

namespace DovecotCeph

open Lib

/-! ## 1. Properties -/

/-- The properties of a URI. -/
inductive UriProp where
  | oid
  | pool
  | dictClusterName
  | dictUserName
  | dictCfgObjectName
  deriving DecidableEq, Repr

/-- The name of a property, with its `=`. -/
def UriProp.name : UriProp → String
  | .oid => "oid="
  | .pool => "pool="
  | .dictClusterName => "dict_cluster_name="
  | .dictUserName => "dict_user_name="
  | .dictCfgObjectName => "dict_cfg_object_name="

def uriProps : List UriProp := [.oid, .pool, .dictClusterName, .dictUserName, .dictCfgObjectName]

/-- The segment starts with the name of a property. -/
def isProp (seg : String) : Bool := uriProps.any fun prop => hasKey prop.name seg

/-- A property with a value without colons. -/
structure UriPart where
  prop : UriProp
  value : String
  noColon : ':' ∉ value.toList

def UriPart.text (part : UriPart) : String := part.prop.name ++ part.value

/-- The URI of a list of properties. -/
def uriOf (parts : List UriPart) : String :=
  String.ofList ([':'].intercalate (parts.map fun part => part.text.toList))

namespace DictUri

/-- What is set for a property. -/
def get (u : DictUri) : UriProp → String
  | .oid => u.oid
  | .pool => u.poolname
  | .dictClusterName => u.clustername
  | .dictUserName => u.radosUsername
  | .dictCfgObjectName => u.cephCfg

def set (u : DictUri) (prop : UriProp) (value : String) : DictUri :=
  match prop with
  | .oid => { u with oid := value }
  | .pool => { u with poolname := value }
  | .dictClusterName => { u with clustername := value }
  | .dictUserName => { u with radosUsername := value }
  | .dictCfgObjectName => { u with cephCfg := value }

theorem get_set (u : DictUri) (prop prop' : UriProp) (value : String) :
    (u.set prop value).get prop' = if prop' = prop then value else u.get prop' := by
  cases prop <;> cases prop' <;> rfl

end DictUri

/-- The value of the last property of a kind, or the default. -/
def lastPropValue (parts : List UriPart) (prop : UriProp) : String :=
  match parts.reverse.find? fun part => part.prop = prop with
  | some part => part.value
  | none => ({} : DictUri).get prop

/-- What the properties say. -/
def lastPropValues (parts : List UriPart) : DictUri where
  oid := lastPropValue parts .oid
  poolname := lastPropValue parts .pool
  clustername := lastPropValue parts .dictClusterName
  radosUsername := lastPropValue parts .dictUserName
  cephCfg := lastPropValue parts .dictCfgObjectName

/-- `rados_dict_init` behind the URI: the cluster is initialised with the names of the cluster and
    of the user, and the dictionary gets the other values. -/
def dictInitWith (I : DictInitEnv) (u : DictUri) (username : String) :
    Except InitError RadosDict :=
  match I.clusterInit u.clustername u.radosUsername with
  | .failed e => .error (.returned ("Error initializing RadosCluster! " ++ I.strerror (-e.1)))
  | .done => .ok ⟨u.poolname, dictUsername I.dictEscapeString username, u.oid, u.cephCfg⟩

/-- **For each property the value of its last occurrence is used**, and the default where it does
    not occur. -/
def UsesLast (parts : List UriPart) : Prop :=
  ∀ I username, radosDictInit I (some (uriOf parts)) username =
    dictInitWith I (lastPropValues parts) username

/-- A segment that is not empty is no property. -/
def HasInvalid (uri : String) : Prop := ∃ seg ∈ explode uri ':', seg ≠ "" ∧ isProp seg = false

/-- **A URI with an invalid segment gives -1 and an error.** -/
def RejectsInvalid (uri : String) : Prop :=
  HasInvalid uri → ∀ I username, ∃ error, radosDictInit I (some uri) username =
    .error (.returned error)

/-- `dict_user_name=` without a value. -/
def emptyUser : String := "dict_user_name="

section Init

variable {I : DictInitEnv} {uri : Option String} {username : String}

theorem radosDictInit_eq : radosDictInit I uri username =
    (DictUri.parse uri).bind fun u => dictInitWith I u username := rfl

end Init

/-! ## 2. One property -/

/-- How many characters of a property the code cuts off. -/
def UriProp.cut : UriProp → Nat
  | .oid => 4
  | .pool => 5
  | .dictClusterName => 18
  | .dictUserName => 16
  | .dictCfgObjectName => 21

section Property

variable {prop : UriProp} {value seg : String}

/-- The branches of the loop are those of the properties. -/
theorem prop_eq (u : DictUri) (seg : String) :
    u.prop seg = match uriProps.find? fun prop => hasKey prop.name seg with
      | some prop => (substrOr prop.cut seg).map (u.set prop)
      | none => .error (.returned "Invalid URI!") := by
  unfold DictUri.prop uriProps
  simp only [List.find?_cons, List.find?_nil, UriProp.name]
  cases hasKey "oid=" seg with
  | true => rfl
  | false =>
      cases hasKey "pool=" seg with
      | true => rfl
      | false =>
          cases hasKey "dict_cluster_name=" seg with
          | true => rfl
          | false =>
              cases hasKey "dict_user_name=" seg with
              | true => rfl
              | false => cases hasKey "dict_cfg_object_name=" seg <;> rfl

/-- No name begins another one. -/
theorem name_of_begins {prop' : UriProp}
    (h : prop.name.toList.isPrefixOf prop'.name.toList = true) : prop = prop' := by
  revert h
  cases prop <;> cases prop' <;> decide

/-- A property starts with its own name alone. -/
theorem hasKey_name {prop' : UriProp} :
    hasKey prop.name (prop'.name ++ value) = true ↔ prop = prop' := by
  unfold hasKey
  rw [String.toList_append, List.isPrefixOf_iff_prefix]
  constructor
  · intro h
    rcases List.prefix_or_prefix_of_prefix h (List.prefix_append _ _) with h | h
    · exact name_of_begins (List.isPrefixOf_iff_prefix.mpr h)
    · exact (name_of_begins (List.isPrefixOf_iff_prefix.mpr h)).symm
  · rintro rfl
    exact List.prefix_append _ _

theorem find_name : (uriProps.find? fun p => hasKey p.name (prop.name ++ value)) = some prop := by
  have hkey : (fun p : UriProp => hasKey p.name (prop.name ++ value)) =
      fun p => decide (p = prop) := by
    funext p
    exact Bool.eq_iff_iff.mpr (hasKey_name.trans decide_eq_true_iff.symm)
  rw [hkey]
  cases prop <;> rfl

/-- A value behind `n` characters. -/
theorem substrOr_append {n : Nat} {name : String} (hn : name.toList.length = n) :
    substrOr n (name ++ value) = .ok value := by
  have hle : n ≤ (name ++ value).toList.length := by
    rw [String.toList_append, List.length_append]
    omega
  have hdrop : (name ++ value).toList.drop n = value.toList := by
    rw [String.toList_append, ← hn, List.drop_left]
  unfold substrOr substrFrom
  rw [if_pos hle, hdrop, String.ofList_toList]

/-- **What a property does**, if it is not `dict_user_name=`: its value is taken. -/
theorem prop_text (u : DictUri) (h : prop ≠ .dictUserName) :
    u.prop (prop.name ++ value) = .ok (u.set prop value) := by
  have hcut : prop.name.toList.length = prop.cut := by
    cases hprop : prop <;> first | rfl | exact absurd hprop h
  rw [prop_eq, find_name]
  dsimp only
  rw [substrOr_append hcut]
  rfl

/-- Of `dict_user_name=` the value is taken without its first character; without a value the process
    ends. -/
theorem prop_user (u : DictUri) (value : String) :
    u.prop (UriProp.dictUserName.name ++ value) =
      if value = "" then .error .outOfRange
      else .ok (u.set .dictUserName (String.ofList (value.toList.drop 1))) := by
  rw [prop_eq, find_name]
  dsimp only [UriProp.cut]
  unfold substrOr substrFrom
  have hlen : (UriProp.dictUserName.name ++ value).toList.length = 15 + value.toList.length := by
    rw [String.toList_append, List.length_append]
    rfl
  have hdrop : (UriProp.dictUserName.name ++ value).toList.drop 16 = value.toList.drop 1 := by
    rw [String.toList_append]
    exact List.drop_append
  rw [hlen, hdrop]
  by_cases hvalue : value = ""
  · rw [hvalue]
    rfl
  · have hpos : 0 < value.toList.length :=
      List.length_pos_iff.mpr fun h => hvalue (String.toList_eq_nil_iff.mp h)
    rw [if_pos (by omega), if_neg hvalue]
    rfl

/-- What is stored of a property. -/
def UriPart.taken (part : UriPart) : String :=
  if part.prop = .dictUserName then String.ofList (part.value.toList.drop 1) else part.value

/-- The property that ends the process. -/
def UriPart.Throws (part : UriPart) : Prop := part.prop = .dictUserName ∧ part.value = ""

instance (part : UriPart) : Decidable part.Throws := inferInstanceAs (Decidable (_ ∧ _))

/-- **What a property does.** -/
theorem prop_part (u : DictUri) (part : UriPart) :
    u.prop part.text =
      if part.Throws then .error .outOfRange else .ok (u.set part.prop part.taken) := by
  by_cases h : part.prop = .dictUserName
  · have htext : part.text = UriProp.dictUserName.name ++ part.value := by rw [UriPart.text, h]
    have htaken : part.taken = String.ofList (part.value.toList.drop 1) := if_pos h
    rw [htext, prop_user, htaken, h]
    by_cases hvalue : part.value = ""
    · rw [if_pos hvalue, if_pos ⟨h, hvalue⟩]
    · rw [if_neg hvalue, if_neg fun hthrows => hvalue hthrows.2]
  · have htaken : part.taken = part.value := if_neg h
    rw [UriPart.text, prop_text u h, htaken, if_neg fun hthrows => h hthrows.1]

/-- The segments that start with the name of a property. -/
theorem isProp_iff : isProp seg = true ↔ ∃ (prop : UriProp) (value : String),
    seg = prop.name ++ value := by
  unfold isProp
  rw [List.any_eq_true]
  constructor
  · intro h
    obtain ⟨prop, _, hkey⟩ := h
    obtain ⟨value, hvalue⟩ := List.isPrefixOf_iff_prefix.mp hkey
    refine ⟨prop, String.ofList value, String.toList_injective ?_⟩
    rw [String.toList_append, String.toList_ofList, hvalue]
  · intro h
    obtain ⟨prop, value, rfl⟩ := h
    exact ⟨prop, by cases prop <;> decide, hasKey_name.mpr rfl⟩

/-- A segment that is no property is an error. -/
theorem prop_invalid (u : DictUri) (h : isProp seg = false) :
    u.prop seg = .error (.returned "Invalid URI!") := by
  have hnone : (uriProps.find? fun prop => hasKey prop.name seg) = none :=
    List.find?_eq_none.mpr fun prop hprop => List.any_eq_false.mp h prop hprop
  rw [prop_eq, hnone]

/-- A property is not one, unless it is `dict_user_name=` without a value. -/
theorem prop_valid (u : DictUri) (h : isProp seg = true) (hne : seg ≠ emptyUser) :
    ∃ u', u.prop seg = .ok u' := by
  obtain ⟨prop, value, rfl⟩ := isProp_iff.mp h
  by_cases huser : prop = .dictUserName
  · rw [huser] at hne ⊢
    have hvalue : value ≠ "" := by
      rintro rfl
      exact hne rfl
    exact ⟨_, (prop_user u value).trans (if_neg hvalue)⟩
  · exact ⟨u.set prop value, prop_text u huser⟩

end Property

/-! ## 3. Lists of properties -/

section Parts

variable {parts : List UriPart}

theorem DictUri.ext_get {u v : DictUri} (h : ∀ prop, u.get prop = v.get prop) : u = v := by
  obtain ⟨oid, poolname, clustername, radosUsername, cephCfg⟩ := u
  obtain rfl : oid = v.oid := h .oid
  obtain rfl : poolname = v.poolname := h .pool
  obtain rfl : clustername = v.clustername := h .dictClusterName
  obtain rfl : radosUsername = v.radosUsername := h .dictUserName
  obtain rfl : cephCfg = v.cephCfg := h .dictCfgObjectName
  rfl

theorem get_lastPropValues (prop : UriProp) :
    (lastPropValues parts).get prop = lastPropValue parts prop := by
  cases prop <;> rfl

/-- The last property of a kind is what remains. -/
theorem get_foldl (u : DictUri) (prop : UriProp) :
    (parts.foldl (fun u part => u.set part.prop part.taken) u).get prop =
      match parts.reverse.find? fun part => part.prop = prop with
      | some part => part.taken
      | none => u.get prop := by
  induction parts generalizing u with
  | nil => rfl
  | cons part parts ih =>
      rw [List.foldl_cons, ih, List.reverse_cons, List.find?_append]
      cases parts.reverse.find? fun part => part.prop = prop with
      | some part' => rfl
      | none =>
          rw [DictUri.get_set, Option.none_or]
          by_cases h : part.prop = prop
          · have hfind : [part].find? (fun part => part.prop = prop) = some part :=
              List.find?_cons_of_pos (decide_eq_true h)
            rw [if_pos h.symm, hfind]
          · have hfind : [part].find? (fun part => part.prop = prop) = none := by simp [h]
            rw [if_neg (Ne.symm h), hfind]

/-- What a list of properties does. -/
theorem foldlM_parts (u : DictUri) :
    (parts.map UriPart.text).foldlM DictUri.prop u =
      if ∃ part ∈ parts, part.Throws then .error .outOfRange
      else .ok (parts.foldl (fun u part => u.set part.prop part.taken) u) := by
  induction parts generalizing u with
  | nil => rfl
  | cons part parts ih =>
      rw [List.map_cons, List.foldlM_cons, prop_part]
      by_cases h : part.Throws
      · rw [if_pos h, if_pos ⟨part, List.mem_cons_self, h⟩]
        rfl
      · have hrest : (∃ p ∈ part :: parts, p.Throws) ↔ ∃ p ∈ parts, p.Throws := by simp [h]
        rw [if_neg h]
        show (parts.map UriPart.text).foldlM DictUri.prop _ = _
        simp only [ih, hrest, List.foldl_cons]

/-- A segment of a URI is not empty and has no colon. -/
theorem text_ne_nil (part : UriPart) : part.text.toList ≠ [] := by
  unfold UriPart.text
  rw [String.toList_append]
  refine List.append_ne_nil_of_left_ne_nil ?_ _
  cases part.prop <;> decide

theorem colon_notMem_text (part : UriPart) : ':' ∉ part.text.toList := by
  unfold UriPart.text
  rw [String.toList_append, List.mem_append, not_or]
  exact ⟨by cases part.prop <;> decide, part.noColon⟩

theorem intercalate_cons (sep : Char) (t : List Char) (ts : List (List Char)) :
    [sep].intercalate (t :: ts) = t ++ ts.flatMap (sep :: ·) := by
  induction ts generalizing t with
  | nil => simp [List.intercalate]
  | cons u us ih =>
      rw [List.flatMap_cons, List.cons_append, ← ih u]
      simp [List.intercalate, List.intersperse]

/-- **The segments of the URI are the properties.** -/
theorem explode_uriOf (parts : List UriPart) :
    explode (uriOf parts) ':' = parts.map UriPart.text := by
  unfold explode uriOf
  rw [String.toList_ofList]
  cases parts with
  | nil => rfl
  | cons part parts =>
      have hne : ∀ t ∈ (part :: parts).map fun part => part.text.toList, t ≠ [] :=
        List.forall_mem_map.mpr fun part _ => text_ne_nil part
      have hcolon : ∀ t ∈ (part :: parts).map fun part => part.text.toList, ':' ∉ t :=
        List.forall_mem_map.mpr fun part _ => colon_notMem_text part
      rw [List.map_cons, intercalate_cons, getlines_joined hne hcolon]
      show ((part :: parts).map fun part => part.text.toList).map String.ofList = _
      rw [List.map_map]
      exact List.map_congr_left fun part _ => String.ofList_toList

theorem parse_parts (parts : List UriPart) :
    DictUri.parse (some (uriOf parts)) =
      if ∃ part ∈ parts, part.Throws then .error .outOfRange
      else .ok (parts.foldl (fun u part => u.set part.prop part.taken) {}) := by
  show (explode (uriOf parts) ':').foldlM DictUri.prop {} = _
  rw [explode_uriOf, foldlM_parts]

/-- Without `dict_user_name=` the last values are used. -/
theorem usesLast_of_noUser (h : ∀ part ∈ parts, part.prop ≠ .dictUserName) : UsesLast parts := by
  have hthrows : ¬ ∃ part ∈ parts, part.Throws := by
    intro hthrows
    obtain ⟨part, hpart, huser, _⟩ := hthrows
    exact h part hpart huser
  have hlast :
      parts.foldl (fun u part => u.set part.prop part.taken) {} = lastPropValues parts := by
    refine DictUri.ext_get fun prop => ?_
    rw [get_foldl, get_lastPropValues, lastPropValue]
    cases hfind : parts.reverse.find? fun part => part.prop = prop with
    | none => rfl
    | some part =>
        have hmem := List.mem_reverse.mp (List.mem_of_find?_eq_some hfind)
        exact if_neg (h part hmem)
  intro I username
  rw [radosDictInit_eq, parse_parts, if_neg hthrows, hlast]
  rfl

/-- A cluster that lets in one user alone. -/
def onlyUser (name : String) : DictInitEnv where
  dictEscapeString := id
  clusterInit := fun _ radosUsername =>
    if radosUsername = name then .done else .failed ⟨-1, by decide⟩
  strerror := fun _ => ""

/-- Where the last values are used, so is that of `dict_user_name=`. -/
theorem username_of_usesLast (h : UsesLast parts) :
    ∃ u, DictUri.parse (some (uriOf parts)) = .ok u ∧
      u.radosUsername = lastPropValue parts .dictUserName := by
  have hinit := h (onlyUser (lastPropValue parts .dictUserName)) ""
  have hok : dictInitWith (onlyUser (lastPropValue parts .dictUserName)) (lastPropValues parts) "" =
      .ok ⟨(lastPropValues parts).poolname, dictUsername id "", (lastPropValues parts).oid,
        (lastPropValues parts).cephCfg⟩ := by
    have hlast : (lastPropValues parts).radosUsername = lastPropValue parts .dictUserName := rfl
    unfold dictInitWith onlyUser
    dsimp only
    rw [if_pos hlast]
  rw [radosDictInit_eq, hok] at hinit
  cases hparse : DictUri.parse (some (uriOf parts)) with
  | error e =>
      rw [hparse] at hinit
      cases hinit
  | ok u =>
      rw [hparse] at hinit
      refine ⟨u, rfl, ?_⟩
      by_contra hne
      have hfails : dictInitWith (onlyUser (lastPropValue parts .dictUserName)) u "" =
          .error (.returned "Error initializing RadosCluster! ") := by
        unfold dictInitWith onlyUser
        dsimp only
        rw [if_neg hne]
        rfl
      have hbind : dictInitWith (onlyUser (lastPropValue parts .dictUserName)) u "" = .ok _ := hinit
      rw [hfails] at hbind
      cases hbind

/-- **The last values are used exactly if there is no `dict_user_name=`.** -/
theorem usesLast_iff (parts : List UriPart) :
    UsesLast parts ↔ ∀ part ∈ parts, part.prop ≠ .dictUserName := by
  refine ⟨fun h => ?_, usesLast_of_noUser⟩
  obtain ⟨u, hparse, hname⟩ := username_of_usesLast h
  rw [parse_parts] at hparse
  split at hparse
  case isTrue => cases hparse
  case isFalse hthrows =>
    obtain rfl := Except.ok.inj hparse
    intro part hpart huser
    have hget := @get_foldl parts {} .dictUserName
    have hname' := hget.symm.trans hname
    unfold lastPropValue at hname'
    cases hfind : parts.reverse.find? fun part => part.prop = .dictUserName with
    | none =>
        have hnot := List.find?_eq_none.mp hfind part (List.mem_reverse.mpr hpart)
        exact hnot (decide_eq_true huser)
    | some last =>
        rw [hfind] at hname'
        have hprop : last.prop = .dictUserName := by simpa using List.find?_some hfind
        have hmem := List.mem_reverse.mp (List.mem_of_find?_eq_some hfind)
        have htaken : String.ofList (last.value.toList.drop 1) = last.value :=
          (if_pos hprop).symm.trans hname'
        -- a value without its first character is another one, unless it is empty
        have hlen := congrArg (fun s => s.toList.length) htaken
        rw [String.toList_ofList, List.length_drop] at hlen
        have hnil : last.value.toList = [] := List.length_eq_zero_iff.mp (by omega)
        exact hthrows ⟨last, hmem, hprop, String.toList_eq_nil_iff.mp hnil⟩

end Parts

/-! ## 4. Segments that are no properties -/

section Invalid

/-- **The first segment that is no property is an error**, unless the process ends before. -/
theorem foldlM_invalid {segs : List String} (u : DictUri) (h : ∃ seg ∈ segs, isProp seg = false) :
    segs.foldlM DictUri.prop u = .error
      (if emptyUser ∈ segs.takeWhile isProp then .outOfRange else .returned "Invalid URI!") := by
  induction segs generalizing u with
  | nil =>
      obtain ⟨seg, hseg, _⟩ := h
      cases hseg
  | cons seg segs ih =>
      rw [List.foldlM_cons]
      cases hprop : isProp seg with
      | false =>
          rw [prop_invalid u hprop, List.takeWhile_cons_of_neg (by simp [hprop]),
            if_neg List.not_mem_nil]
          rfl
      | true =>
          rw [List.takeWhile_cons_of_pos hprop]
          by_cases hempty : seg = emptyUser
          · have hthrows : u.prop emptyUser = .error .outOfRange := prop_user u ""
            rw [hempty, hthrows, if_pos List.mem_cons_self]
            rfl
          · obtain ⟨u', hu'⟩ := prop_valid u hprop hempty
            have hrest : ∃ seg ∈ segs, isProp seg = false := by
              obtain ⟨seg', hmem, hinvalid⟩ := h
              rcases List.mem_cons.mp hmem with rfl | hmem
              · rw [hprop] at hinvalid
                cases hinvalid
              · exact ⟨seg', hmem, hinvalid⟩
            rw [hu']
            show segs.foldlM DictUri.prop u' = _
            simp only [ih u' hrest, List.mem_cons, Ne.symm hempty, false_or]

/-- **A URI with an invalid segment is refused exactly if no empty `dict_user_name=` stands before
    the first segment that is no property.** -/
theorem rejectsInvalid_iff (uri : String) :
    RejectsInvalid uri ↔
      (HasInvalid uri → emptyUser ∉ (explode uri ':').takeWhile isProp) := by
  refine imp_congr_right fun h => ?_
  obtain ⟨seg, hseg, _, hinvalid⟩ := h
  have hparse : DictUri.parse (some uri) = .error
      (if emptyUser ∈ (explode uri ':').takeWhile isProp then .outOfRange
        else .returned "Invalid URI!") :=
    foldlM_invalid {} ⟨seg, hseg, hinvalid⟩
  by_cases hempty : emptyUser ∈ (explode uri ':').takeWhile isProp
  · rw [if_pos hempty] at hparse
    refine iff_of_false (fun h => ?_) (not_not.mpr hempty)
    obtain ⟨error, herror⟩ := h (onlyUser "") ""
    rw [radosDictInit_eq, hparse] at herror
    cases herror
  · rw [if_neg hempty] at hparse
    refine iff_of_true (fun I username => ⟨"Invalid URI!", ?_⟩) hempty
    rw [radosDictInit_eq, hparse]
    rfl

/-- **Which URIs are read as they are written**: lists of properties without `dict_user_name=`, and
    URIs with an invalid segment, if there is no `dict_user_name=` without a value before. -/
theorem dict_uri_iff (parts : List UriPart) (uri : String) :
    (UsesLast parts ↔ ∀ part ∈ parts, part.prop ≠ .dictUserName) ∧
      (RejectsInvalid uri ↔
        (HasInvalid uri → emptyUser ∉ (explode uri ':').takeWhile isProp)) :=
  ⟨usesLast_iff parts, rejectsInvalid_iff uri⟩

end Invalid

/-- `dict_user_name=client.rados`: the user is `lient.rados`. -/
def userPart : UriPart := ⟨.dictUserName, "client.rados", by simp⟩

theorem user_name_cut :
    DictUri.parse (some (uriOf [userPart])) = .ok { radosUsername := "lient.rados" } ∧
      ¬ UsesLast [userPart] ∧ ¬ RejectsInvalid "dict_user_name=:x" := by
  refine ⟨?_, fun h => ?_, fun h => ?_⟩
  · rw [parse_parts, if_neg (by decide)]
    rfl
  · exact (usesLast_iff _).mp h userPart List.mem_cons_self rfl
  · exact (rejectsInvalid_iff _).mp h ⟨"x", by decide, by decide, by decide⟩ (by decide)

end DovecotCeph
