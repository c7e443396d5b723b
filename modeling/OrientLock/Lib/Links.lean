import Mathlib.Logic.Function.Basic

set_option autoImplicit false

/- Circular doubly linked lists in the manner of `include/linux/list.h`, over a flat memory of
32-bit words: a `list_head` at `node` keeps `next` at `node` and `prev` at `node + 4`. A list
is read back by following `next` from its head. Every operation reads the links it rewrites
from memory, so on a node whose words were overwritten it writes wherever they point. -/
namespace Links

/-- 32-bit words by byte address. -/
abbrev Mem := UInt32 → UInt32

def next (mem : Mem) (node : UInt32) : UInt32 := mem node

def prev (mem : Mem) (node : UInt32) : UInt32 := mem (node + 4)

/-- `LIST_POISON1` and `LIST_POISON2` of `include/linux/poison.h`; ARM sets no
`CONFIG_ILLEGAL_POINTER_VALUE`, so `POISON_POINTER_DELTA` is 0. -/
def poison1 : UInt32 := 0x00100100

def poison2 : UInt32 := 0x00200200

/-- `INIT_LIST_HEAD`. -/
def initListHead (mem : Mem) (list : UInt32) : Mem :=
  Function.update (Function.update mem list list) (list + 4) list

/-- `__list_add(new, prev, next)`. -/
def listAdd (mem : Mem) (new before after : UInt32) : Mem :=
  let mem := Function.update mem (after + 4) new
  let mem := Function.update mem new after
  let mem := Function.update mem (new + 4) before
  Function.update mem before new

def listAddTail (mem : Mem) (new head : UInt32) : Mem := listAdd mem new (prev mem head) head

/-- `list_del`: `__list_del(entry->prev, entry->next)`, then both links poisoned. -/
def listDel (mem : Mem) (entry : UInt32) : Mem :=
  let before := prev mem entry
  let after := next mem entry
  let mem := Function.update mem (after + 4) before
  let mem := Function.update mem before after
  Function.update (Function.update mem entry poison1) (entry + 4) poison2

/-- The nodes `list_for_each` visits from `node` until it is back at `head`; `none` when that
takes more than `fuel` links. -/
def walk (mem : Mem) (head : UInt32) : Nat → UInt32 → Option (List UInt32)
  | 0, _ => none
  | fuel + 1, node =>
    if node = head then some [] else (walk mem head fuel (next mem node)).map (node :: ·)

/-- The nodes of the list at `head`. -/
def nodes (mem : Mem) (head : UInt32) (fuel : Nat) : Option (List UInt32) :=
  walk mem head fuel (next mem head)

end Links
