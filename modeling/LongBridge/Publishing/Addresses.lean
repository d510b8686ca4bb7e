import LongBridge.Publishing.Publish
import LongBridge.Schedule.Binding

namespace LongBridge.Publishing
open Effects
open Schedule (partitionAt_absent)

section splitting

variable {mark char : Char} {chars : List Char}

theorem partitionAt_before (mark : Char) (chars : List Char) : (partitionAt mark chars).1 = chars.takeWhile (· != mark) := by
  unfold partitionAt
  rw [List.span_eq_takeWhile_dropWhile]
  split
  · rename_i same
    exact (congrArg Prod.fst same).symm
  · rename_i same
    exact (congrArg Prod.fst same).symm

theorem absent_before (mark : Char) (chars : List Char) : mark ∉ (partitionAt mark chars).1 := by
  rw [partitionAt_before]
  intro member
  have unlike := List.mem_takeWhile_imp member
  rw [bne_self_eq_false] at unlike
  cases unlike

theorem mem_before (member : char ∈ (partitionAt mark chars).1) : char ∈ chars := by
  rw [partitionAt_before] at member
  exact (List.takeWhile_sublist _).mem member

theorem mem_partitionAt_after (member : char ∈ (partitionAt mark chars).2.2) : char ∈ chars := by
  unfold partitionAt at member
  rw [List.span_eq_takeWhile_dropWhile] at member
  split at member
  · cases member
  · rename_i first rest same
    have held : char ∈ chars.dropWhile (· != mark) := by
      rw [(Prod.mk.inj same).2]
      exact List.mem_cons_of_mem _ member
    exact (List.dropWhile_sublist _).mem held

theorem mem_splitScheme (member : char ∈ (splitScheme chars).2) : char ∈ chars := by
  unfold splitScheme at member
  split at member
  · rename_i scheme rest same
    split at member
    · have parted : char ∈ (partitionAt ':' chars).2.2 := by
        rw [same]
        exact member
      exact mem_partitionAt_after parted
    · exact member
  · exact member

theorem mem_splitNetloc (member : char ∈ (splitNetloc chars).1) : (['/','?','#'].contains char) = false ∧ char ∈ chars := by
  unfold splitNetloc at member
  split at member
  · rename_i rest
    rw [List.span_eq_takeWhile_dropWhile] at member
    refine ⟨?_,List.mem_cons_of_mem _ (List.mem_cons_of_mem _ ((List.takeWhile_sublist _).mem member))⟩
    have stops := List.mem_takeWhile_imp member
    rwa [Bool.not_eq_true'] at stops
  · cases member

theorem mem_afterNetloc (member : char ∈ (splitNetloc chars).2) : char ∈ chars := by
  unfold splitNetloc at member
  split at member
  · rw [List.span_eq_takeWhile_dropWhile] at member
    exact List.mem_cons_of_mem _ (List.mem_cons_of_mem _ ((List.dropWhile_sublist _).mem member))
  · exact member

end splitting

-- What `urlsplit` makes of any text has a host and a path that it would read again.
structure PlainHost (netlocValid : String → Bool) (host : List Char) : Prop where
  plain : ∀ char ∈ host, (['/','?','#'].contains char) = false
  safe : ∀ char ∈ host, isUnsafeInUrl char = false
  brackets : (host.contains '[' != host.contains ']') = false
  valid : netlocValid (String.ofList host) = true

structure PlainPath (path : List Char) : Prop where
  query : '?' ∉ path
  fragment : '#' ∉ path
  safe : ∀ char ∈ path, isUnsafeInUrl char = false

theorem urlsplit_plain {netlocValid : String → Bool} {text : String} {url : Url} (split : urlsplit netlocValid text = .ok url) :
    PlainHost netlocValid url.netloc.toList ∧ PlainPath url.path.toList := by
  unfold urlsplit at split
  dsimp only at split
  split at split
  · cases split
  · rename_i brackets
    split at split
    · cases split
    · rename_i valid
      cases split
      have safe : ∀ char ∈ (text.toList.dropWhile isUrlPadding).filter (fun char => !isUnsafeInUrl char), isUnsafeInUrl char = false := by
        intro char member
        have kept := (List.mem_filter.mp member).2
        rwa [Bool.not_eq_true'] at kept
      rw [String.toList_ofList,String.toList_ofList]
      refine ⟨⟨fun _ member => (mem_splitNetloc member).1,fun _ member => safe _ (mem_splitScheme (mem_splitNetloc member).2),?_,?_⟩,
        ⟨absent_before _ _,fun member => absent_before _ _ (mem_before member),
          fun _ member => safe _ (mem_splitScheme (mem_afterNetloc (mem_before (mem_before member))))⟩⟩
      · exact Bool.eq_false_iff.mpr brackets
      · rw [Bool.not_eq_true',Bool.not_eq_false] at valid
        exact valid

section objects

variable {netlocValid : String → Bool} {bucket name : List Char}

theorem leadObject_safe : ∀ char ∈ ['g','s',':','/','/'], (!isUnsafeInUrl char) = true := by
  intro char member
  have all : (List.all ['g','s',':','/','/'] fun char => !isUnsafeInUrl char) = true := by decide
  exact List.all_eq_true.mp all char member

theorem urlsplit_object (host : PlainHost netlocValid bucket) (path : PlainPath name) :
    urlsplit netlocValid (blobUri (String.ofList bucket) (String.ofList name)) =
      .ok ⟨"gs",String.ofList bucket,String.ofList ('/' :: name),"",""⟩ := by
  have chars : (blobUri (String.ofList bucket) (String.ofList name)).toList = ['g','s',':','/','/'] ++ (bucket ++ '/' :: name) := by
    unfold blobUri
    simp only [String.toList_append,String.toList_ofList,List.append_assoc]
    rfl
  have clean : ((['g','s',':','/','/'] ++ (bucket ++ '/' :: name)).dropWhile isUrlPadding).filter (fun char => !isUnsafeInUrl char) =
      ['g','s',':','/','/'] ++ (bucket ++ '/' :: name) := by
    have kept : (['g','s',':','/','/'] ++ (bucket ++ '/' :: name)).dropWhile isUrlPadding = ['g','s',':','/','/'] ++ (bucket ++ '/' :: name) := by
      rw [List.cons_append,List.dropWhile_cons_of_neg (by decide)]
    rw [kept,List.filter_eq_self]
    intro char member
    rcases List.mem_append.mp member with lead | inside
    · exact leadObject_safe char lead
    · rw [Bool.not_eq_true']
      rcases List.mem_append.mp inside with first | later
      · exact host.safe char first
      · rcases List.mem_cons.mp later with rfl | later
        · decide
        · exact path.safe char later
  have scheme : splitScheme (['g','s',':','/','/'] ++ (bucket ++ '/' :: name)) = (['g','s'],'/' :: '/' :: (bucket ++ '/' :: name)) := by
    have parts : partitionAt ':' (['g','s',':','/','/'] ++ (bucket ++ '/' :: name)) = (['g','s'],true,'/' :: '/' :: (bucket ++ '/' :: name)) := rfl
    unfold splitScheme
    rw [parts]
    rfl
  have netloc : splitNetloc ('/' :: '/' :: (bucket ++ '/' :: name)) = (bucket,'/' :: name) := by
    have stops : ∀ char ∈ bucket, (!(['/','?','#'].contains char)) = true := fun char member => by rw [host.plain char member]; rfl
    show (bucket ++ '/' :: name).span (fun char => !(['/','?','#'].contains char)) = _
    rw [List.span_eq_takeWhile_dropWhile,List.takeWhile_append_of_pos stops,List.dropWhile_append_of_pos stops,
      List.takeWhile_cons_of_neg (by decide),List.dropWhile_cons_of_neg (by decide),List.append_nil]
  have noFragment : '#' ∉ '/' :: name := List.not_mem_cons_of_ne_of_not_mem (by decide) path.fragment
  have noQuery : '?' ∉ '/' :: name := List.not_mem_cons_of_ne_of_not_mem (by decide) path.query
  unfold urlsplit
  simp only [chars,clean,scheme,netloc,partitionAt_absent noFragment,partitionAt_absent noQuery,host.brackets,host.valid]
  rfl

-- What `_gs_object` makes of any text it makes again of the URI of what it has made.
theorem gsObject_again {text first second : String} (read : gsObject netlocValid text = .ok (some (first,second))) (named : second ≠ "") :
    gsObject netlocValid (blobUri first second) = .ok (some (first,second)) := by
  unfold gsObject at read
  obtain ⟨url,split,made⟩ := bind_ok.mp read
  split at made
  · cases made
  · rename_i stated
    cases made
    push Not at stated
    obtain ⟨host,path⟩ := urlsplit_plain split
    have inner : PlainPath (url.path.toList.dropWhile (· == '/')) :=
      ⟨fun member => path.query ((List.dropWhile_sublist _).mem member),fun member => path.fragment ((List.dropWhile_sublist _).mem member),
        fun char member => path.safe char ((List.dropWhile_sublist _).mem member)⟩
    have again := urlsplit_object host inner
    rw [String.ofList_toList] at again
    unfold gsObject
    rw [again]
    have nonempty : url.path.toList.dropWhile (· == '/') ≠ [] := fun empty => named (by rw [empty])
    have whole : String.ofList ('/' :: url.path.toList.dropWhile (· == '/')) ≠ "" ∧ String.ofList ('/' :: url.path.toList.dropWhile (· == '/')) ≠ "/" := by
      constructor <;> intro same <;> have texts := congrArg String.toList same <;> rw [String.toList_ofList] at texts
      · cases texts
      · exact nonempty (List.cons.inj texts).2
    have stripped : (String.ofList ('/' :: url.path.toList.dropWhile (· == '/'))).toList.dropWhile (· == '/') = url.path.toList.dropWhile (· == '/') := by
      rw [String.toList_ofList,List.dropWhile_cons_of_pos (by rfl)]
      exact List.dropWhile_idempotent _ _
    show (if "gs" ≠ "gs" ∨ url.netloc = "" ∨ _ = "" ∨ _ = "/" then _ else _) = _
    rw [if_neg (by simp only [ne_eq,not_true_eq_false,false_or,not_or]; exact ⟨stated.2.1,whole.1,whole.2⟩),stripped]
    rfl

end objects

end LongBridge.Publishing
