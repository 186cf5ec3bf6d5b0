import TableQuery.Proofs.Sql.Sentence

/-!
# Lawful tokenizers

A tokenizer is lawful if its placeholders are question marks, from the first to the last, and if those
of a sentence are all that the sentence has. `tokens_lawful` says so of `Sql.tokens`. What builders and
drivers make of placeholders follows from the two laws and is proved for every lawful tokenizer.
-/

namespace TableQuery
open Placeholder (Marked ofTokens)

namespace Sql

structure Tokenizer.Lawful (tokenize : Tokenizer) : Prop where
  marked {cs : List Char} {ts : List Token} (read : tokenize cs = .ok ts) : Marked 0 cs (ofTokens ts)
  sentence {cs : List Char} (plain : Sentence false cs) :
    ∃ ts, tokenize cs = .ok ts ∧ ofTokens ts = cs.idxsOf '?'

theorem tokens_lawful : Tokenizer.Lawful tokens where
  marked read := .of_scans (scans_of_scan read)
  sentence := Sentence.tokens

namespace Tokenizer.Lawful

variable {tokenize : Tokenizer} (lawful : tokenize.Lawful) {sql : String}
include lawful

theorem places_marked {ps : List Nat} (found : Placeholder.places sql tokenize = .ok ps) :
    Marked 0 sql.toList ps := by
  unfold Placeholder.places at found
  split at found
  · rename_i ts read
    cases found
    exact lawful.marked read
  · cases found

theorem places_sentence (plain : Sentence false sql.toList) :
    Placeholder.places sql tokenize = .ok (sql.toList.idxsOf '?') := by
  obtain ⟨ts, read, found⟩ := lawful.sentence plain
  simp only [Placeholder.places, read, found]

end Tokenizer.Lawful

end Sql

end TableQuery
