import NewApi.Plugins.JSONState

/-! The sizes that a plugin's JSON state keeps are those of the result, and the result is that of the changes made to an ordinary
JSON tree one after another. -/
namespace NewApi.Plugins
open Prod List Trees Runs
variable {F : Type} {codec : Codec F}

theorem Node.value_object (fields : List (List Char×Node F)) (mark : Size) :
    Node.value (.object fields mark)=.object (fields.map (Prod.map id Node.value)) () := Tree.bare_object ..

theorem Node.value_array (items : List (Node F)) (mark : Size) : Node.value (.array items mark)=.array (items.map Node.value) () :=
  Tree.bare_array ..

/-- Where the walk along a path ends: at a node, or at an object that does not have the last key. -/
inductive Reaches (root : Node F) : List (Frame (List Char) (Leaf F) Size) → Option (Node F) → Prop
  | found {t frames} : Below t frames root → Reaches root frames (some t)
  | missing {fields mark key frames} : find key fields=none → Below (.object fields mark) frames root →
      Reaches root (frames++[.field fields mark key]) none

variable {segment changes : Value F} {key : List Char}

theorem pathKey_ok {limit : Int} (h : pathKey limit segment=.ok key) : place codec segment=some (.inl key) := by
  cases segment with
  | plain js value =>
    cases js with
    | true => cases h
    | false =>
      cases value with
      | text text =>
        obtain ⟨_,hvalid,h⟩ := bind_ok h
        cases h
        exact if_pos (require_ok hvalid).1
      | _ => cases h
  | _ => cases h

variable {items : List (Node F)} {child : Node F}

theorem pathItem_ok {index : Nat} (h : pathItem codec items segment=.ok (index,child)) :
    place codec segment=some (.inr index) ∧ items[index]? = some child := by
  rw [pathItem] at h
  cases hnumber : asNumber codec segment with
  | none =>
    rw [hnumber] at h
    cases h
  | some number =>
    rw [hnumber] at h
    dsimp only at h
    cases hindex : codec.index number with
    | none =>
      rw [hindex] at h
      cases h
    | some i =>
      rw [hindex] at h
      dsimp only at h
      cases hitem : items[i]? with
      | none =>
        rw [hitem] at h
        cases h
      | some item =>
        rw [hitem] at h
        cases h
        have hplace : place codec segment=(asNumber codec segment).bind fun number => (codec.index number).map Sum.inr := by
          cases segment with
          | plain js value => cases js <;> cases value <;> first | rfl | cases hnumber
          | _ => rfl
        rw [hplace,hnumber,Option.bind_some,hindex]
        exact ⟨rfl,hitem⟩

variable {fields : List (List Char×Node F)} {mark : Size}

theorem Reaches.field {frames : List (Frame (List Char) (Leaf F) Size)} {target : Option (Node F)}
    (hfind : find key fields=some child)
    (h : Reaches child frames target) : Reaches (.object fields mark) (.field fields mark key::frames) target := by
  cases h with
  | found hbelow => exact .found (.field hfind hbelow)
  | missing hnone hbelow => exact .missing hnone (.field hfind hbelow)

theorem Reaches.item {index : Nat} {frames : List (Frame (List Char) (Leaf F) Size)} {target : Option (Node F)}
    (hitem : items[index]? = some child)
    (h : Reaches child frames target) : Reaches (.array items mark) (.item items mark index::frames) target := by
  cases h with
  | found hbelow => exact .found (.item hitem hbelow)
  | missing hnone hbelow => exact .missing hnone (.item hitem hbelow)

theorem walk_ok {limit : Int} {op : Op} {root : Node F} {path : List (Value F)} {frames : List (Frame (List Char) (Leaf F) Size)}
    {target : Option (Node F)} (h : walk codec limit op root path=.ok (frames,target)) :
    Reaches root frames target ∧ path.mapM (place codec)=some (frames.map Frame.place) ∧ frames.length=path.length ∧
      (target=none → op=.set) := by
  induction path generalizing root frames target with
  | nil =>
    have h : Except.ok ([],some root)=Except.ok (ε := String) (frames,target) := by cases root <;> exact h
    cases h
    exact ⟨.found .here,rfl,rfl,fun h => nomatch h⟩
  | cons segment rest ih =>
    cases root with
    | leaf value mark => cases h
    | object fields mark =>
      obtain ⟨key,hkey,h⟩ := bind_ok h
      cases hfind : find key fields with
      | none =>
        rw [hfind] at h
        obtain ⟨_,hlast,h⟩ := bind_ok h
        obtain ⟨hrest,hop⟩ := require_ok hlast
        cases h
        rw [List.isEmpty_iff] at hrest
        subst hrest
        have hreach : Reaches (.object fields mark) ([]++[.field fields mark key]) none := .missing hfind .here
        exact ⟨hreach,by simp [pathKey_ok hkey,Frame.place],rfl,fun _ => hop⟩
      | some child =>
        rw [hfind] at h
        obtain ⟨⟨ancestors,last⟩,hrest,h⟩ := bind_ok h
        cases h
        obtain ⟨hreach,hplaces,hlength,hset⟩ := ih hrest
        exact ⟨hreach.field hfind,by simp [pathKey_ok hkey,hplaces,Frame.place],congrArg (· + 1) hlength,hset⟩
    | array items mark =>
      obtain ⟨⟨index,child⟩,hitem,h⟩ := bind_ok h
      obtain ⟨⟨ancestors,last⟩,hrest,h⟩ := bind_ok h
      cases h
      obtain ⟨hplace,hitem⟩ := pathItem_ok hitem
      obtain ⟨hreach,hplaces,hlength,hset⟩ := ih hrest
      exact ⟨hreach.item hitem,by simp [hplace,hplaces,Frame.place],congrArg (· + 1) hlength,hset⟩

/-- The state's tree: its marks are exact and within the limits, and its value can be encoded. -/
structure Sound (codec : Codec F) (limit : Int) (root : Node F) : Prop where
  exact : root.Exact (costs codec)
  bytes : root.mark.1≤limit
  nodes : root.mark.2 ≤ maxJSONToolNodes
  depth : root.depth ≤ maxJSONToolDepth
  finite : codec.finiteTree (Node.value root)=true

theorem finite_object (fields : List (List Char×Node F)) (mark : Size) :
    codec.finiteTree (Node.value (.object fields mark))=true ↔ ∀ entry∈fields, codec.finiteTree (Node.value entry.2)=true := by
  rw [Node.value_object,Codec.finiteTree_object,all_map,all_eq_true]
  rfl

theorem finite_array (items : List (Node F)) (mark : Size) :
    codec.finiteTree (Node.value (.array items mark))=true ↔ ∀ item∈items, codec.finiteTree (Node.value item)=true := by
  rw [Node.value_array,Codec.finiteTree_array,all_map,all_eq_true]
  rfl

variable {limit : Int} {root target next : Node F} {frames : List (Frame (List Char) (Leaf F) Size)} {added : Size}

theorem Sound.refill (h : Sound codec limit root) (hbelow : Below target frames root) (hexact : next.Exact (costs codec))
    (hadded : next.mark=target.mark+added) (hbytes : root.mark.1+added.1≤limit)
    (hnodes : root.mark.2+added.2 ≤ maxJSONToolNodes) (hdepth : frames.length+next.depth ≤ maxJSONToolDepth)
    (hfinite : codec.finiteTree (Node.value next)=true) : Sound codec limit (refill frames next added) := by
  obtain ⟨hexact,hmark⟩ := hbelow.refill_exact h.exact hexact hadded
  refine ⟨hexact,?_,?_,hbelow.refill_depth h.depth hdepth added,?_⟩
  · rw [hmark]
    exact hbytes
  · rw [hmark]
    exact hnodes
  · exact hbelow.refill_all (p := fun node => codec.finiteTree (Node.value node)=true) finite_object finite_array h.finite hfinite added

theorem newKeyCost_concat (fields : List (List Char×Node F)) (mark : Size) (key : List Char) :
    newKeyCost codec (frames++[.field fields mark key])=(codec.quote key).length+1 + if fields.isEmpty then 0 else 1 := by
  induction frames with
  | nil => rfl
  | cons frame rest ih =>
    cases hrest : rest++[Frame.field fields mark key] with
    | nil => simp at hrest
    | cons next others =>
      rw [cons_append,hrest,newKeyCost,← hrest,ih]
      simp

theorem Built.mark_le {depth : Nat} {budget rest : Budget} {value : Value F} (h : Built codec depth budget value next rest) :
    next.mark.1≤budget.bytes ∧ next.mark.2≤budget.nodes := by
  have hbytes := congrArg Prod.fst h.spent
  have hnodes := congrArg Prod.snd h.spent
  have hleft := h.left
  simp only [Budget.size,fst_add,snd_add] at hbytes hnodes
  omega

theorem exact_concat_field (h : Tree.Exact (costs codec) (.object fields mark)) (hfind : find key fields=none)
    (hnext : next.Exact (costs codec)) : Tree.Exact (costs codec) (.object (assign key next fields)
      (mark+(((((codec.quote key).length : Int)+1 + if fields.isEmpty then 0 else 1),(0 : Int))+next.mark))) := by
  obtain ⟨hmark,hfields⟩ := Tree.exact_object.mp h
  refine Tree.exact_object.mpr ⟨?_,?_⟩
  · rw [assign_eq_append hfind,Costs.total_object,map_append,map_cons,map_nil,Costs.entries_concat,
      ← Costs.total_object (costs codec) fields mark,← hmark,hnext.mark]
    have hcomma : ((((codec.quote key).length : Int)+1 + if fields.isEmpty then 0 else 1),(0 : Int)) =
        (costs codec).key key + if fields.isEmpty then 0 else (costs codec).comma := by
      cases fields <;> simp [costs]
    rw [hcomma]
    simp only [map_eq_nil_iff,List.isEmpty_iff]
    abel
  · intro entry hentry
    rcases mem_assign hentry with rfl | hentry
    · exact hnext
    · exact hfields entry hentry

theorem exact_concat_item (h : Tree.Exact (costs codec) (.array items mark)) (hnext : next.Exact (costs codec)) :
    Tree.Exact (costs codec) (.array (items++[next]) (mark+((if items.isEmpty then 0 else 1,0)+next.mark))) := by
  obtain ⟨hmark,hitems⟩ := Tree.exact_array.mp h
  refine Tree.exact_array.mpr ⟨?_,?_⟩
  · rw [Costs.total_array,map_append,map_cons,map_nil,Costs.entries_concat,
      ← Costs.total_array (costs codec) items mark,← hmark,hnext.mark]
    have hcomma : (((if items.isEmpty then 0 else 1 : Int)),(0 : Int)) = if items.isEmpty then 0 else (costs codec).comma := by
      cases items <;> simp [costs]
    rw [hcomma]
    simp only [map_eq_nil_iff,List.isEmpty_iff]
    abel
  · intro item hitem
    rcases mem_append.mp hitem with hitem | hitem
    · exact hitems item hitem
    rw [mem_singleton.mp hitem]
    exact hnext

theorem Leaf.value_appendText {previous : List Char} {text : Option (List Char)} (more : List Char) :
    ∃ before, (⟨.str previous,text⟩ : Leaf F).value=.str before ∧
      (Leaf.appendText ⟨.str previous,text⟩ previous more : Leaf F).value=.str (before++more) := by
  cases text with
  | none =>
    refine ⟨previous,rfl,?_⟩
    rw [Leaf.appendText]
    split
    next hmore =>
      rw [hmore,append_nil]
      rfl
    · rfl
  | some builder =>
    refine ⟨builder,rfl,?_⟩
    rw [Leaf.appendText]
    split
    next hmore =>
      rw [hmore,append_nil]
      rfl
    · rfl

theorem Codec.length_quote_append (before more : List Char) :
    ((codec.quote (before++more)).length : Int)=(codec.quote before).length+((codec.quote more).length-2) := by
  have hquote : (ascii "\"").length=1 := by decide
  simp only [Codec.quote,length_append,flatMap_append,hquote,Nat.cast_add]
  omega

variable {s : JSONState F} {ctx ctx' : Context} {root' : Node F} {found : Option (Node F)} {value : Value F}

/-- A change that succeeds keeps the tree sound and makes of its value what the operation makes of an ordinary tree. -/
def Changed (codec : Codec F) (s : JSONState F) (op : Op) (frames : List (Frame (List Char) (Leaf F) Size)) (value : Value F)
    (root' : Node F) : Prop :=
  Sound codec s.limit root' ∧ Tree.edit (op.on codec value) (frames.map Frame.place) (Node.value s.root)=some (Node.value root')

theorem applySet_ok (hs : Sound codec s.limit s.root) (hreach : Reaches s.root frames found)
    (h : applySet codec s ctx frames found frames.length value=.ok (root',ctx')) : Changed codec s .set frames value root' := by
  obtain ⟨⟨next,rest⟩,hnext,h⟩ := bind_ok h
  cases h
  have hbuilt := newJSONStateNode_ok hnext
  obtain ⟨hbytes,hnodes⟩ := hbuilt.mark_le
  cases hreach with
  | @found target _ hbelow =>
    change next.mark.1 ≤ s.limit-s.root.mark.1+target.mark.1-0 at hbytes
    change next.mark.2 ≤ maxJSONToolNodes-s.root.mark.2+target.mark.2 at hnodes
    change Changed codec s .set frames value (Trees.refill frames next ((0,0)+(next.mark-target.mark)))
    have hadded : next.mark=target.mark+((0,0)+(next.mark-target.mark)) := by
      rw [show ((0,0) : Size)=0 from rfl,zero_add,add_sub_cancel]
    refine ⟨hs.refill hbelow hbuilt.exact hadded ?_ ?_ hbuilt.depth hbuilt.finite,?_⟩
    · simp only [fst_add,fst_sub]
      omega
    · simp only [snd_add,snd_sub]
      omega
    · rw [← append_nil (frames.map Frame.place)]
      refine hbelow.edit [] ?_ _
      rw [Tree.edit_nil]
      exact hbuilt.value
  | @missing fields mark key frames hfind hbelow =>
    change next.mark.1 ≤ s.limit-s.root.mark.1+0-newKeyCost codec (frames++[.field fields mark key]) at hbytes
    change next.mark.2 ≤ maxJSONToolNodes-s.root.mark.2+0 at hnodes
    change Changed codec s .set _ value (Trees.refill (frames++[.field fields mark key]) next
      ((newKeyCost codec (frames++[.field fields mark key]),0)+(next.mark-0)))
    rw [newKeyCost_concat] at hbytes ⊢
    rw [refill_append,sub_zero,Changed,map_append]
    have hdepth := hbuilt.depth
    rw [length_append,length_singleton] at hdepth
    have hobject := hbelow.exact hs.exact
    refine ⟨hs.refill hbelow (exact_concat_field hobject hfind hbuilt.exact) rfl ?_ ?_ ?_ ?_,?_⟩
    · simp only [fst_add]
      omega
    · simp only [snd_add]
      omega
    · have hroom := hbelow.depth hs.depth
      have hfields : ∀ entry∈fields, Tree.depth entry.2+1 ≤ maxJSONToolDepth-frames.length :=
        Tree.depth_object_le.mp (Nat.le_sub_of_add_le' hroom)
      have hnew : Tree.depth (.object (assign key next fields) mark) ≤ maxJSONToolDepth-frames.length :=
        Tree.depth_object_le.mpr fun entry hentry => by
          rcases mem_assign hentry with rfl | hentry
          · change next.depth+1≤_
            omega
          · exact hfields entry hentry
      exact Nat.add_le_of_le_sub' (by omega) hnew
    · have hfields := (finite_object fields mark).mp (hbelow.all (p := fun node => codec.finiteTree (Node.value node)=true) finite_object finite_array hs.finite)
      refine (finite_object _ _).mpr fun entry hentry => ?_
      rcases mem_assign hentry with rfl | hentry
      · exact hbuilt.finite
      · exact hfields entry hentry
    · refine hbelow.edit [.inl key] ?_ _
      change Tree.edit _ _ (Node.value _)=some (Node.value (.object (assign key next fields) _))
      rw [Node.value_object,Tree.edit_missing (by rw [find_map,hfind]; rfl),Node.value_object,map_assign]
      change (value.json codec).map _=_
      rw [hbuilt.value]
      rfl

theorem applyAppend_ok (hs : Sound codec s.limit s.root) (hreach : Reaches s.root frames found)
    (h : applyAppend codec s ctx frames found frames.length value=.ok (root',ctx')) : Changed codec s .append frames value root' := by
  cases hreach with
  | missing => cases h
  | @found target _ hbelow =>
    cases target with
    | leaf | object => cases h
    | array items mark =>
      obtain ⟨⟨next,rest⟩,hnext,h⟩ := bind_ok h
      cases h
      have hbuilt := newJSONStateNode_ok hnext
      obtain ⟨hbytes,hnodes⟩ := hbuilt.mark_le
      change next.mark.1 ≤ s.limit-s.root.mark.1-_ at hbytes
      change next.mark.2 ≤ maxJSONToolNodes-s.root.mark.2 at hnodes
      have hdepth := hbuilt.depth
      refine ⟨hs.refill hbelow (exact_concat_item (hbelow.exact hs.exact) hbuilt.exact) rfl ?_ ?_ ?_ ?_,?_⟩
      · simp only [fst_add]
        omega
      · simp only [snd_add]
        omega
      · have hroom := hbelow.depth hs.depth
        have hitems : ∀ item∈items, Tree.depth item+1 ≤ maxJSONToolDepth-frames.length :=
          Tree.depth_array_le.mp (Nat.le_sub_of_add_le' hroom)
        have hnew : ∀ mark : Size, Tree.depth (.array (items++[next]) mark) ≤ maxJSONToolDepth-frames.length := fun mark =>
          Tree.depth_array_le.mpr fun item hitem => by
            rcases mem_append.mp hitem with hitem | hitem
            · exact hitems item hitem
            rw [mem_singleton.mp hitem]
            omega
        exact Nat.add_le_of_le_sub' (by omega) (hnew _)
      · have hitems := (finite_array items mark).mp
          (hbelow.all (p := fun node => codec.finiteTree (Node.value node)=true) finite_object finite_array hs.finite)
        refine (finite_array _ _).mpr fun item hitem => ?_
        rcases mem_append.mp hitem with hitem | hitem
        · exact hitems item hitem
        rw [mem_singleton.mp hitem]
        exact hbuilt.finite
      · rw [← append_nil (frames.map Frame.place)]
        refine hbelow.edit [] ?_ _
        change Tree.edit _ _ (Node.value _)=some (Node.value _)
        rw [Tree.edit_nil,Node.value_array,Node.value_array,map_append]
        change (value.json codec).map _=_
        rw [hbuilt.value]
        rfl

theorem applyAppendText_cases (h : applyAppendText codec s ctx frames found value=.ok (root',ctx')) :
    ∃ previous text mark more, found=some (.leaf ⟨.str previous,text⟩ mark) ∧ value=.plain false (.text more) ∧
      ((codec.quote (runes more)).length : Int)-2 ≤ s.limit-s.root.mark.1 ∧
      root'=Trees.refill frames (.leaf (Leaf.appendText ⟨.str previous,text⟩ previous (runes more))
        (mark+(((codec.quote (runes more)).length : Int)-2,0))) (((codec.quote (runes more)).length : Int)-2,0) := by
  unfold applyAppendText at h
  split at h
  next previous text mark more =>
    obtain ⟨_,-,h⟩ := bind_ok h
    obtain ⟨_,hroom,h⟩ := bind_ok h
    cases h
    exact ⟨previous,text,mark,more,rfl,rfl,require_ok hroom,rfl⟩
  · cases h

theorem applyAppendText_ok (hs : Sound codec s.limit s.root) (hreach : Reaches s.root frames found)
    (h : applyAppendText codec s ctx frames found value=.ok (root',ctx')) : Changed codec s .appendText frames value root' := by
  obtain ⟨previous,text,mark,more,rfl,rfl,hroom,rfl⟩ := applyAppendText_cases h
  obtain ⟨before,hbefore,hafter⟩ := @Leaf.value_appendText F previous text (runes more)
  cases hreach with
  | found hbelow =>
    have hmark := Tree.exact_leaf.mp (hbelow.exact hs.exact)
    have hdepth := hbelow.depth hs.depth
    have hnodes := hs.nodes
    refine ⟨hs.refill hbelow (Tree.exact_leaf.mpr ?_) rfl ?_ ?_ hdepth ?_,?_⟩
    · rw [hmark]
      refine Prod.ext ?_ ?_
      · change _+_=((codec.encodeScalar (Leaf.value _)).length : Int)
        rw [hafter,Codec.encodeScalar,Codec.length_quote_append]
        change ((codec.encodeScalar (Leaf.value _)).length : Int)+_=_
        rw [hbefore]
        rfl
      · rfl
    · dsimp only
      omega
    · dsimp only
      omega
    · change codec.finiteScalar (Leaf.value _)=true
      rw [hafter]
      rfl
    · rw [← append_nil (frames.map Frame.place)]
      refine hbelow.edit [] ?_ _
      rw [Tree.edit_nil]
      change Op.on codec _ .appendText (some (.leaf (Leaf.value _) ()))=some (.leaf (Leaf.value _) ())
      rw [hbefore,hafter]
      rfl

theorem applyChange_ok {item : Value F} (hs : Sound codec s.limit s.root) (h : applyChange codec s ctx item=.ok (root',ctx')) :
    Sound codec s.limit root' ∧ ordinaryChange codec (Node.value s.root) item=some (Node.value root') := by
  obtain ⟨_,-,h⟩ := bind_ok h
  obtain ⟨⟨op,path,value⟩,hparse,h⟩ := bind_ok h
  obtain ⟨⟨ancestors,target⟩,hwalk,h⟩ := bind_ok h
  obtain ⟨hreach,hplaces,hlength,-⟩ := walk_ok hwalk
  rw [← hlength] at h
  have hchanged : Changed codec s op ancestors value root' := by
    cases op with
    | set => exact applySet_ok hs hreach h
    | append => exact applyAppend_ok hs hreach h
    | appendText => exact applyAppendText_ok hs hreach h
  refine ⟨hchanged.1,?_⟩
  rw [ordinaryChange,hparse]
  change (path.mapM (place codec)).bind _=_
  rw [hplaces]
  exact hchanged.2

variable {s' : JSONState F} {err : String}

theorem applyChanges_ok {items : List (Value F)} (hs : Sound codec s.limit s.root)
    (h : s.applyChanges codec ctx items=(s',none)) : Sound codec s'.limit s'.root ∧ s'.limit=s.limit ∧ s'.failed=s.failed ∧
      items.foldlM (ordinaryChange codec) (Node.value s.root)=some (Node.value s'.root) := by
  induction items generalizing s ctx with
  | nil =>
    cases h
    exact ⟨hs,rfl,rfl,rfl⟩
  | cons item rest ih =>
    rw [JSONState.applyChanges] at h
    split at h
    · cases h
    rename_i root' ctx' hitem
    obtain ⟨hsound,hchange⟩ := applyChange_ok hs hitem
    obtain ⟨hsound,hlimit,hfailed,hvalue⟩ := ih hsound h
    refine ⟨hsound,hlimit,hfailed,?_⟩
    rw [foldlM_cons,hchange]
    exact hvalue

theorem fail_none {result : JSONState F×Option String} (h : fail result=(s',none)) : result=(s',none) := by
  obtain ⟨s,err⟩ := result
  cases err with
  | none => exact h
  | some err => cases h

theorem apply_ok (hs : Sound codec s.limit s.root) (h : s.apply codec ctx changes=(s',none)) :
    Sound codec s'.limit s'.root ∧ s'.limit=s.limit ∧ s'.failed=none ∧
      ordinaryChanges codec (Node.value s.root) changes=some (Node.value s'.root) := by
  rw [JSONState.apply] at h
  split at h
  · cases h
  rename_i hfailed
  split at h
  · cases fail_none h
  rename_i ctx' items hcheck
  obtain ⟨hsound,hlimit,hfailed',hvalue⟩ := applyChanges_ok hs (fail_none h)
  refine ⟨hsound,hlimit,hfailed'.trans hfailed,?_⟩
  obtain ⟨_,-,hcheck⟩ := bind_ok hcheck
  rw [ordinaryChanges]
  cases hitems : asSlice changes with
  | none =>
    rw [hitems] at hcheck
    cases hcheck
  | some found =>
    rw [hitems] at hcheck
    obtain ⟨_,-,hcheck⟩ := bind_ok hcheck
    cases hcheck
    exact hvalue

theorem applyAll_ok {calls : List (Context×Value F)} (hs : Sound codec s.limit s.root) (hopen : s.failed=none)
    (h : s.applyAll codec calls=some s') : Sound codec s'.limit s'.root ∧ s'.limit=s.limit ∧ s'.failed=none ∧
      (calls.map Prod.snd).foldlM (ordinaryChanges codec) (Node.value s.root)=some (Node.value s'.root) := by
  induction calls generalizing s with
  | nil =>
    cases h
    exact ⟨hs,rfl,hopen,rfl⟩
  | cons call rest ih =>
    rw [JSONState.applyAll] at h
    split at h
    next s1 hcall =>
      obtain ⟨hsound,hlimit,hfailed,hvalue⟩ := apply_ok hs hcall
      obtain ⟨hsound,hlimit',hfailed,hrest⟩ := ih hsound hfailed h
      refine ⟨hsound,hlimit'.trans hlimit,hfailed,?_⟩
      rw [map_cons,foldlM_cons,hvalue]
      exact hrest
    · cases h

theorem sound_newJSONState {limit : Int} (h : 4≤limit) : Sound codec (newJSONState (F := F) limit).limit (newJSONState limit).root where
  exact := Tree.exact_leaf.mpr rfl
  bytes := by
    change 4 ≤ max 0 (min limit maxJSONToolBytes)
    unfold maxJSONToolBytes
    omega
  nodes := by
    change 1 ≤ maxJSONToolNodes
    decide
  depth := Nat.zero_le _
  finite := rfl

theorem value_ok (hs : Sound codec s.limit s.root) (hopen : s.failed=none) : s.value codec=.ok (Node.value s.root) := by
  have htotal : s.root.mark.1=((codec.encode (Node.value s.root)).length : Int) :=
    congrArg Prod.fst (hs.exact.mark.trans (total_costs s.root))
  have hlength : ((codec.encode (Node.value s.root)).length : Int)=Node.bytes s.root ∧
      ((codec.encode (Node.value s.root)).length : Int) ≤ s.limit := ⟨htotal.symm,by rw [← htotal]; exact hs.bytes⟩
  rw [JSONState.value,hopen,Codec.marshal,if_pos hs.finite]
  change (require _ _).bind _=_
  rw [require,if_pos hlength]
  rfl

theorem apply_failed (h : s.apply codec ctx changes=(s',some err)) : s'.failed=some err := by
  rw [JSONState.apply] at h
  split at h
  next hfailed =>
    cases h
    exact hfailed
  · split at h
    · cases h
      rfl
    next ctx' items _ =>
      rcases hresult : s.applyChanges codec ctx' items with ⟨s1,_ | err⟩
      · rw [hresult] at h
        cases h
      · rw [hresult] at h
        cases h
        rfl

def JSONState.after (codec : Codec F) (s : JSONState F) (calls : List (Context×Value F)) : JSONState F :=
  calls.foldl (fun s call => (s.apply codec call.1 call.2).1) s

theorem after_failed (h : s.failed=some err) (calls : List (Context×Value F)) :
    (s.after codec calls).failed=some err := by
  induction calls generalizing s with
  | nil => exact h
  | cons call rest ih =>
    refine ih ?_
    change (s.apply codec call.1 call.2).1.failed=some err
    rw [JSONState.apply,h]
    exact h

/-- After calls of `Apply` that all succeed every node keeps the size of its value, the limits hold, and `Value` returns what the
changes make of an ordinary tree; after a call that fails it never returns a tree. -/
theorem json_state_exact (codec : Codec F) {limit : Int} (hlimit : 4≤limit) :
    (∀ calls s, (newJSONState limit).applyAll codec calls=some s → (∀ node, Tree.Within node s.root →
        Node.bytes node=((codec.encode (Node.value node)).length : Int) ∧ Node.nodes node=Json.count (Node.value node)) ∧
      Node.bytes s.root ≤ min limit maxJSONToolBytes ∧ Node.nodes s.root≤32768 ∧ s.root.depth≤32 ∧
      ∃ value, s.value codec=.ok value ∧ (calls.map Prod.snd).foldlM (ordinaryChanges codec) (.leaf .null ())=some value) ∧
    ∀ (s : JSONState F) ctx changes s' err, s.apply codec ctx changes=(s',some err) →
      ∀ later, (s'.after codec later).value codec=.error err := by
  constructor
  · intro calls s hcalls
    obtain ⟨hsound,hlimit',hopen,hvalue⟩ := applyAll_ok (sound_newJSONState hlimit) rfl hcalls
    refine ⟨fun node hnode => ?_,?_,hsound.nodes,hsound.depth,Node.value s.root,value_ok hsound hopen,hvalue⟩
    · have hsize := (hsound.exact node hnode).trans (total_costs node)
      exact ⟨congrArg Prod.fst hsize,congrArg Prod.snd hsize⟩
    · have hbytes := hsound.bytes
      rw [hlimit'] at hbytes
      change _ ≤ max 0 (min limit maxJSONToolBytes) at hbytes
      change s.root.mark.1≤_
      unfold maxJSONToolBytes at *
      omega
  · intro s ctx changes s' err hfails later
    rw [JSONState.value,after_failed (apply_failed hfails)]

def digits : Codec Nat where
  char c := if c = '"' then ascii "\\\"" else [c.toNat.toUInt8]
  number n := [48+n.toUInt8]
  finite n := n<10
  ofInt := Int.toNat
  index := some

def changeOf (op : String) (path : List (Value Nat)) (value : Value Nat) : Value Nat :=
  .object false [(literal "op",.plain false (.text (literal op))),(literal "path",.array false path),(literal "value",value)]

def textValue (text : String) : Value Nat := .plain false (.text (literal text))

def partsOfStream : List (Context×Value Nat) :=
  [(none,.array false [changeOf "set" [] (.object true [(literal "parts",.array true [])]),
        changeOf "append" [textValue "parts"] (textValue "a")]),
    (some 9,.array false [changeOf "appendText" [textValue "parts",.plain false (.int 0)] (textValue "b\""),
        changeOf "set" [textValue "done"] (.plain false (.bool true))])]

theorem json_state_exact_parts : ∃ s, (newJSONState 40).applyAll digits partsOfStream=some s ∧ Node.bytes s.root=30 ∧
    ∃ value, s.value digits=.ok value := by
  have hruns : ((newJSONState 40).applyAll digits partsOfStream).any fun s => Node.bytes s.root=30 := by decide +kernel
  obtain ⟨s,hs,hbytes⟩ := Option.any_eq_true .. |>.mp hruns
  obtain ⟨-,-,-,-,value,hvalue,-⟩ := (json_state_exact digits (show (4 : Int)≤40 by decide)).1 _ s hs
  exact ⟨s,hs,by simpa using hbytes,value,hvalue⟩

end NewApi.Plugins
