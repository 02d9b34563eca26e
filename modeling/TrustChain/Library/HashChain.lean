import Mathlib.Data.List.Nodup

namespace TrustChain
namespace Library

universe u v w

/-!
# Hash-linked chains

A block is written out as a text, the digest of that text names the block, and
the text of each block quotes the name of the block before it.  The first block
quotes a fixed name that no block has.

If the digest separates the texts of two chains, then the name of the newest
block determines the whole sequence of texts.  No bound on the lengths of the
two chains is assumed: it is the reserved first name that makes them end
together.  Chains are listed newest first, so that appending a block is `cons`
and quoting looks at the tail.
-/

/-- How blocks are written out, named and linked. -/
structure ChainFormat (Block : Type u) (Text : Type v) (Hash : Type w) where
  text : Block → Text
  parent : Block → Hash
  digest : Text → Hash
  genesis : Hash

namespace ChainFormat

variable {Block : Type u} {Text : Type v} {Hash : Type w}
variable (format : ChainFormat Block Text Hash)

def name (block : Block) : Hash :=
  format.digest (format.text block)

/-- What the next block has to quote. -/
def head : List Block → Hash
  | [] => format.genesis
  | newest :: _ => format.name newest

/-- Each block quotes the one before it. -/
def Linked : List Block → Prop
  | [] => True
  | newest :: older => format.parent newest = format.head older ∧ Linked older

/-- What is asked of the format on the blocks of two chains.  Nothing is
assumed about texts that do not occur in them: no digest of bounded length
separates all texts. -/
structure Separates (left right : List Block) : Prop where
  parent_of_text : ∀ first ∈ left, ∀ second ∈ right,
    format.text first = format.text second → format.parent first = format.parent second
  digest_inj : ∀ first ∈ left, ∀ second ∈ right,
    format.name first = format.name second → format.text first = format.text second
  left_ne_genesis : ∀ block ∈ left, format.name block ≠ format.genesis
  right_ne_genesis : ∀ block ∈ right, format.name block ≠ format.genesis

variable {format}

theorem Separates.tails {left right : List Block} {first second : Block}
    (separates : format.Separates (first :: left) (second :: right)) :
    format.Separates left right where
  parent_of_text := fun one memberOne two memberTwo =>
    separates.parent_of_text one (List.mem_cons_of_mem first memberOne)
      two (List.mem_cons_of_mem second memberTwo)
  digest_inj := fun one memberOne two memberTwo =>
    separates.digest_inj one (List.mem_cons_of_mem first memberOne)
      two (List.mem_cons_of_mem second memberTwo)
  left_ne_genesis := fun block member =>
    separates.left_ne_genesis block (List.mem_cons_of_mem first member)
  right_ne_genesis := fun block member =>
    separates.right_ne_genesis block (List.mem_cons_of_mem second member)

theorem Separates.mono {left right smallerLeft smallerRight : List Block}
    (separates : format.Separates left right) (leftSubset : smallerLeft ⊆ left)
    (rightSubset : smallerRight ⊆ right) : format.Separates smallerLeft smallerRight where
  parent_of_text := fun one memberOne two memberTwo =>
    separates.parent_of_text one (leftSubset memberOne) two (rightSubset memberTwo)
  digest_inj := fun one memberOne two memberTwo =>
    separates.digest_inj one (leftSubset memberOne) two (rightSubset memberTwo)
  left_ne_genesis := fun block member => separates.left_ne_genesis block (leftSubset member)
  right_ne_genesis := fun block member => separates.right_ne_genesis block (rightSubset member)

theorem Linked.of_append {newer older : List Block} (linked : format.Linked (newer ++ older)) :
    format.Linked older := by
  induction newer with
  | nil => exact linked
  | cons newest rest ih => exact ih linked.2

/-- What a block quotes is the reserved name or the name of a block. -/
theorem Linked.parent_cases {blocks : List Block} (linked : format.Linked blocks) {block : Block}
    (member : block ∈ blocks) :
    format.parent block = format.genesis ∨ ∃ older, format.parent block = format.name older := by
  induction blocks with
  | nil => cases member
  | cons newest rest ih =>
      rcases List.mem_cons.mp member with same | inside
      · subst same
        cases rest with
        | nil => exact Or.inl linked.1
        | cons older others => exact Or.inr ⟨older, linked.1⟩
      · exact ih linked.2 inside

/-! A chain in the order in which it grew. -/

theorem linked_reverse_snoc {blocks : List Block} {newest : Block} :
    format.Linked (blocks ++ [newest]).reverse ↔
      format.parent newest = format.head blocks.reverse ∧ format.Linked blocks.reverse := by
  rw [List.reverse_append, List.reverse_singleton, List.singleton_append, Linked]

theorem head_reverse_snoc {blocks : List Block} {newest : Block} :
    format.head (blocks ++ [newest]).reverse = format.name newest := by
  rw [List.reverse_append, List.reverse_singleton, List.singleton_append, head]

/-- The first block quotes the reserved name. -/
theorem Linked.parent_of_first {first : Block} {rest : List Block}
    (linked : format.Linked (first :: rest).reverse) : format.parent first = format.genesis := by
  rw [List.reverse_cons] at linked
  exact linked.of_append.1

/-- Each later block quotes the one in front of it. -/
theorem Linked.parent_of_next {earlier later : List Block} {older newer : Block}
    (linked : format.Linked (earlier ++ older :: newer :: later).reverse) :
    format.parent newer = format.name older := by
  have split : (earlier ++ older :: newer :: later).reverse =
      later.reverse ++ newer :: older :: earlier.reverse := by simp
  rw [split] at linked
  exact linked.of_append.1

/-- Equal heads mean equal histories, from the first block to the newest. -/
theorem texts_eq_of_head_eq {left right : List Block}
    (separates : format.Separates left right) (leftLinked : format.Linked left)
    (rightLinked : format.Linked right) (same : format.head left = format.head right) :
    left.map format.text = right.map format.text := by
  induction left generalizing right with
  | nil =>
      cases right with
      | nil => rfl
      | cons second older =>
          exact absurd same.symm (separates.right_ne_genesis second List.mem_cons_self)
  | cons first rest ih =>
      cases right with
      | nil => exact absurd same (separates.left_ne_genesis first List.mem_cons_self)
      | cons second older =>
          have texts : format.text first = format.text second :=
            separates.digest_inj first List.mem_cons_self second List.mem_cons_self same
          have parents : format.parent first = format.parent second :=
            separates.parent_of_text first List.mem_cons_self second List.mem_cons_self texts
          have heads : format.head rest = format.head older := by
            rw [← leftLinked.1, ← rightLinked.1]
            exact parents
          simp only [List.map_cons, texts, ih separates.tails leftLinked.2 rightLinked.2 heads]

/-- Equal texts of two blocks mean equal histories in front of them. -/
theorem older_texts_eq_of_text_eq {left right : List Block} {first second : Block}
    (separates : format.Separates (first :: left) (second :: right))
    (leftLinked : format.Linked (first :: left)) (rightLinked : format.Linked (second :: right))
    (same : format.text first = format.text second) :
    left.map format.text = right.map format.text := by
  have parents := separates.parent_of_text first List.mem_cons_self second List.mem_cons_self same
  apply texts_eq_of_head_eq separates.tails leftLinked.2 rightLinked.2
  rw [← leftLinked.1, ← rightLinked.1]
  exact parents

/-- Within one chain a head identifies how far the chain has grown. -/
theorem length_eq_of_head_eq {blocks newer : List Block}
    (separates : format.Separates (newer ++ blocks) (newer ++ blocks))
    (linked : format.Linked (newer ++ blocks))
    (same : format.head (newer ++ blocks) = format.head blocks) : newer = [] := by
  have smaller := separates.mono (List.Subset.refl _) (List.subset_append_right newer blocks)
  have texts := texts_eq_of_head_eq smaller linked linked.of_append same
  have lengths := congrArg List.length texts
  rw [List.length_map, List.length_map, List.length_append] at lengths
  exact List.length_eq_zero_iff.mp (by omega)

/-- What the newest block of a chain never shares with an older one is different
in all of its blocks. -/
theorem map_nodup_of_newest_ne {Label : Type*} (label : Block → Label) {blocks : List Block}
    (separates : format.Separates blocks blocks) (linked : format.Linked blocks)
    (differs : ∀ newest newer older rest,
      format.Separates (newest :: (newer ++ older :: rest)) (newest :: (newer ++ older :: rest)) →
      format.Linked (newest :: (newer ++ older :: rest)) → label older ≠ label newest) :
    (blocks.map label).Nodup := by
  induction blocks with
  | nil => exact List.nodup_nil
  | cons newest older ih =>
      rw [List.map_cons, List.nodup_cons]
      refine ⟨?_, ih separates.tails linked.2⟩
      intro member
      rcases List.mem_map.mp member with ⟨block, inside, same⟩
      rcases List.append_of_mem inside with ⟨newer, rest, rfl⟩
      exact differs newest newer block rest separates linked same

/-- No two blocks of one chain have the same name. -/
theorem names_nodup {blocks : List Block} (separates : format.Separates blocks blocks)
    (linked : format.Linked blocks) : (blocks.map format.name).Nodup := by
  apply map_nodup_of_newest_ne format.name separates linked
  intro newest newer block rest separates linked same
  have impossible : newest :: newer = [] :=
    length_eq_of_head_eq separates linked same.symm
  cases impossible

/-- No two blocks of one chain quote the same name. -/
theorem parents_nodup {blocks : List Block} (separates : format.Separates blocks blocks)
    (linked : format.Linked blocks) : (blocks.map format.parent).Nodup := by
  apply map_nodup_of_newest_ne format.parent separates linked
  intro newest newer block rest separates linked same
  have older : format.Linked (block :: rest) := linked.2.of_append
  -- Both blocks quote a head of the same chain, at different lengths.
  have heads : format.head ((newer ++ [block]) ++ rest) = format.head rest := by
    rw [List.append_assoc, List.singleton_append, ← linked.1, ← same]
    exact older.1
  have tailSeparates : format.Separates ((newer ++ [block]) ++ rest)
      ((newer ++ [block]) ++ rest) := by
    rw [List.append_assoc, List.singleton_append]
    exact separates.tails
  have tailLinked : format.Linked ((newer ++ [block]) ++ rest) := by
    rw [List.append_assoc, List.singleton_append]
    exact linked.2
  have impossible := length_eq_of_head_eq tailSeparates tailLinked heads
  exact absurd impossible (List.append_ne_nil_of_right_ne_nil newer (List.cons_ne_nil block []))

end ChainFormat
end Library
end TrustChain
