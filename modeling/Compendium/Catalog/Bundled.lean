import Compendium.Catalog.Basic

/-!
# The bundled catalog

The entries that come with the compendium, from two books: creatures, then spells, then items.
-/

namespace Compendium.Bundled

/-- The book that most entries are taken from. -/
def coreRules : Option String := some "Core Rules"

def wildsExpansion : Option String := some "Wilds Expansion"

def abilities (str dex con int wis cha : Int) : Option (List (String × Scalar)) :=
  some [("str", .int str), ("dex", .int dex), ("con", .int con), ("int", .int int),
    ("wis", .int wis), ("cha", .int cha)]

/-! ## Creatures -/

def goblin : Creature where
  name := "Goblin"
  description := some
    "A small, wiry raider that lurks in caves and ruined keeps."
  source := coreRules
  level := some (.int 1)
  alignment := some "C"
  ac := some (.int 11)
  armorType := some (.text "leather")
  hp := some (.int 5)
  attack := some (.text "1 club +0 (1d4)")
  movement := some (.text "near")
  stats := abilities 0 1 0 (-1) (-1) (-2)
  actions :=
    [⟨"Keen Senses",
      "Can see in total darkness up to near distance."⟩]

def direWolf : Creature where
  name := "Dire Wolf"
  description := some
    "An enormous wolf with a shaggy black coat and eyes like coals."
  source := coreRules
  level := some (.int 4)
  alignment := some "N"
  ac := some (.int 12)
  armorType := none
  hp := some (.int 20)
  attack := some (.text "1 bite +4 (1d8)")
  movement := some (.text "double near")
  stats := abilities 3 2 2 (-3) 1 (-3)
  actions :=
    [⟨"Pack Hunter",
      "Deals +1 damage while an ally is adjacent to its target."⟩]

def wolf : Creature where
  name := "Wolf"
  description := some
    "A lean grey hunter that travels in packs."
  source := coreRules
  level := some (.int 2)
  alignment := some "N"
  ac := some (.int 12)
  armorType := none
  hp := some (.int 10)
  attack := some (.text "1 bite +2 (1d6)")
  movement := some (.text "double near")
  stats := abilities 1 2 1 (-3) 1 (-3)
  actions := []

def skeleton : Creature where
  name := "Skeleton"
  description := some
    "Animated bones of the dead, bound to an ancient command."
  source := coreRules
  level := some (.int 2)
  alignment := some "C"
  ac := some (.int 13)
  armorType := some (.text "chainmail")
  hp := some (.int 11)
  attack := some (.text "1 spear +1 (1d6)")
  movement := some (.text "near")
  stats := abilities 1 0 2 (-2) 0 (-1)
  actions :=
    [⟨"Undead",
      "Immune to morale checks."⟩]

def ogre : Creature where
  name := "Ogre"
  description := some
    "A hulking brute with a taste for mutton and dwarves."
  source := coreRules
  level := some (.int 6)
  alignment := some "C"
  ac := some (.int 9)
  armorType := some (.text "hide")
  hp := some (.int 30)
  attack := some (.text "2 greatclub +6 (2d6)")
  movement := some (.text "near")
  stats := abilities 4 (-1) 3 (-2) (-1) (-1)
  actions := []

def owlbear : Creature where
  name := "Owlbear"
  description := some
    "A feathered, clawed horror of the deep woods."
  source := wildsExpansion
  level := some (.int 6)
  alignment := some "N"
  ac := some (.int 13)
  armorType := none
  hp := some (.int 30)
  attack := some (.text "2 claw +5 (1d10)")
  movement := some (.text "near")
  stats := abilities 4 1 3 (-3) 1 (-3)
  actions :=
    [⟨"Crush",
      "Deals an extra 2d6 damage if both claws hit the same target."⟩]

def acolyte : Creature where
  name := "Acolyte"
  description := some
    "A junior priest devoted to a temple and its secrets."
  source := coreRules
  level := some (.int 1)
  alignment := some "L"
  ac := some (.int 12)
  armorType := some (.text "leather + shield")
  hp := some (.int 4)
  attack := some (.text "1 mace +1 (1d6)")
  movement := some (.text "near")
  stats := abilities 1 (-1) 0 0 1 0
  actions :=
    [⟨"Blessing",
      "Once per day, grants an ally advantage on one roll."⟩]

/-! ## Spells -/

def burningHands : Spell where
  name := "Burning Hands"
  description := some
    "A cone of fire erupts from your fingertips, scorching everything within close range."
  source := coreRules
  tier := some (.int 1)
  dc := some (.int 11)
  duration := some (.text "Instant")
  range := some (.text "Close")
  classes := some ["Wizard"]

def light : Spell where
  name := "Light"
  description := some
    "One object you touch glows with bright, heatless illumination."
  source := coreRules
  tier := some (.int 1)
  dc := some (.int 11)
  duration := some (.text "1 hour real time")
  range := some (.text "Close")
  classes := some ["Priest", "Wizard"]

def cureWounds : Spell where
  name := "Cure Wounds"
  description := some
    "Your touch restores a creature's vigor and closes its wounds."
  source := coreRules
  tier := some (.int 1)
  dc := some (.int 11)
  duration := some (.text "Instant")
  range := some (.text "Close")
  classes := some ["Priest"]

def magicMissile : Spell where
  name := "Magic Missile"
  description := some
    "A glowing bolt of force streaks from your hand and strikes a target you can see."
  source := coreRules
  tier := some (.int 1)
  dc := some (.int 11)
  duration := some (.text "Instant")
  range := some (.text "Far")
  classes := some ["Wizard"]

def holdPerson : Spell where
  name := "Hold Person"
  description := some
    "A humanoid you can see is frozen in place while you focus."
  source := coreRules
  tier := some (.int 2)
  dc := some (.int 12)
  duration := some (.text "Focus")
  range := some (.text "Near")
  classes := some ["Wizard"]

def fireball : Spell where
  name := "Fireball"
  description := some
    "A bead of flame streaks to a point you choose and bursts into a roaring sphere of fire."
  source := coreRules
  tier := some (.int 3)
  dc := some (.int 13)
  duration := some (.text "Instant")
  range := some (.text "Far")
  classes := some ["Wizard"]

def turnUndead : Spell where
  name := "Turn Undead"
  description := some
    "You rebuke the undead with a holy symbol, forcing them to flee."
  source := coreRules
  tier := some (.int 1)
  dc := some (.int 11)
  duration := some (.text "Instant")
  range := some (.text "Near")
  classes := some ["Priest"]

def protectionFromEvil : Spell where
  name := "Protection From Evil"
  description := some
    "A shimmering ward keeps chaotic creatures at bay."
  source := wildsExpansion
  tier := some (.int 1)
  dc := some (.int 11)
  duration := some (.text "Focus")
  range := some (.text "Close")
  classes := some ["Priest", "Wizard"]

/-! ## Items -/

def potionOfHealing : Item where
  name := "Potion of Healing"
  description := some
    "A bubbling red draught that smells of cinnamon."
  source := coreRules
  itemType := some "Potion"
  bonus := none
  benefit := some "Drinking it heals 1d6 hit points."
  personality := none
  curse := none

def longswordPlus1 : Item where
  name := "Longsword +1"
  description := some
    "A well-balanced blade etched with runes of warding."
  source := coreRules
  itemType := some "Magic Weapon"
  bonus := some "+1 to attack and damage rolls."
  benefit := none
  personality := none
  curse := none

def chainmail : Item where
  name := "Chainmail"
  description := some
    "Interlocking iron rings over a padded coat."
  source := coreRules
  itemType := some "Armor"
  bonus := none
  benefit := none
  personality := none
  curse := none

def cloakOfShadows : Item where
  name := "Cloak of Shadows"
  description := some
    "A hooded cloak woven from dusk itself."
  source := wildsExpansion
  itemType := some "Magic Armor"
  bonus := none
  benefit := some "Advantage on checks to hide in dim light."
  personality := some "Whispers encouragement to thieves and scorn to the honest."
  curse := none

def wandOfSparks : Item where
  name := "Wand of Sparks"
  description := some
    "A charred rod of ash wood that crackles when waved."
  source := coreRules
  itemType := some "Wand"
  bonus := none
  benefit := some "Casts Burning Hands once per day."
  personality := none
  curse := none

def ringOfTheHungryMoon : Item where
  name := "Ring of the Hungry Moon"
  description := some
    "A silver band engraved with a crescent."
  source := wildsExpansion
  itemType := some "Magic Ring"
  bonus := none
  benefit := some "You can see in darkness as if it were dim light."
  personality := none
  curse := some "You must eat twice as many rations each day."

end Compendium.Bundled

namespace Compendium

open Bundled in
def Catalog.bundled : Catalog :=
  [.creature goblin,
    .creature direWolf,
    .creature wolf,
    .creature skeleton,
    .creature ogre,
    .creature owlbear,
    .creature acolyte,
    .spell burningHands,
    .spell light,
    .spell cureWounds,
    .spell magicMissile,
    .spell holdPerson,
    .spell fireball,
    .spell turnUndead,
    .spell protectionFromEvil,
    .item potionOfHealing,
    .item longswordPlus1,
    .item chainmail,
    .item cloakOfShadows,
    .item wandOfSparks,
    .item ringOfTheHungryMoon]

end Compendium
