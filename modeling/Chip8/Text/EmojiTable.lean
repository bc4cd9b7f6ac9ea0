/-
# Names of emoji

The names by which a text can ask for an emoji, each in front of its emoji. Listed are the names of
up to fourteen printable ASCII characters: with a colon on either side they fit into sixteen.
-/

import Chip8.Text.Basic

namespace Chip8.Text

/-- Words in pairs: the first with the second, the third with the fourth, and so on. -/
def inPairs : List Text → List (Text × Text)
  | first :: second :: rest => (first, second) :: inPairs rest
  | _ => []

/-- The rows of the table: names and emoji in turn, in the order of the names. -/
def emojiRows : List String :=
  ["+1 👍 -1 👎 100 💯 1234 🔢 8ball 🎱 __1 👎 a 🅰 ab 🆎 abacus 🧮 abc 🔤 abcd 🔡 accept 🉑 adult 🧑",
   "aerial_tramway 🚡 afghanistan 🇦🇫 airplane ✈ alarm_clock ⏰ albania 🇦🇱 alembic ⚗ algeria 🇩🇿",
   "alien 👽 alien_monster 👾 ambulance 🚑 american_samoa 🇦🇸 amphora 🏺 anchor ⚓ andorra 🇦🇩",
   "angel 👼 anger 💢 anger_symbol 💢 angola 🇦🇴 angry 😠 angry_face 😠 anguilla 🇦🇮 anguished 😧",
   "anguished_face 😧 ant 🐜 antarctica 🇦🇶 antenna_bars 📶 apple 🍎 aquarius ♒ argentina 🇦🇷",
   "aries ♈ armenia 🇦🇲 arrow_backward ◀ arrow_down ⬇ arrow_forward ▶ arrow_left ⬅",
   "arrow_right ➡ arrow_up ⬆ arrow_up_down ↕ arrow_up_small 🔼 art 🎨 artist_palette 🎨 aruba 🇦🇼",
   "astonished 😲 athletic_shoe 👟 atm 🏧 atm_sign 🏧 atom_symbol ⚛ australia 🇦🇺 austria 🇦🇹",
   "auto_rickshaw 🛺 automobile 🚗 avocado 🥑 axe 🪓 azerbaijan 🇦🇿 b 🅱 baby 👶 baby_angel 👼",
   "baby_bottle 🍼 baby_chick 🐤 baby_symbol 🚼 back 🔙 back_arrow 🔙 bacon 🥓 badger 🦡 badminton 🏸",
   "bagel 🥯 baggage_claim 🛄 baguette_bread 🥖 bahamas 🇧🇸 bahrain 🇧🇭 balance_scale ⚖ bald 🦲",
   "bald_man 👨‍🦲 bald_woman 👩‍🦲 ballet_shoes 🩰 balloon 🎈 bamboo 🎍 banana 🍌 bangbang ‼",
   "bangladesh 🇧🇩 banjo 🪕 bank 🏦 bar_chart 📊 barbados 🇧🇧 barber 💈 barber_pole 💈 baseball ⚾",
   "basket 🧺 basketball 🏀 bat 🦇 bath 🛀 bathtub 🛁 battery 🔋 bear 🐻 bear_face 🐻 bearded_person 🧔",
   "beating_heart 💓 bed 🛏 bee 🐝 beer 🍺 beer_mug 🍺 beers 🍻 beetle 🐞 beginner 🔰 belarus 🇧🇾",
   "belgium 🇧🇪 belize 🇧🇿 bell 🔔 bellhop_bell 🛎 benin 🇧🇯 bento 🍱 bento_box 🍱 bermuda 🇧🇲",
   "beverage_box 🧃 bhutan 🇧🇹 bicycle 🚲 bicyclist 🚴 bike 🚲 bikini 👙 billed_cap 🧢 biohazard ☣",
   "biohazard_sign ☣ bird 🐦 birthday 🎂 birthday_cake 🎂 black_circle ⚫ black_flag 🏴",
   "black_heart 🖤 black_joker 🃏 black_nib ✒ blossom 🌼 blowfish 🐡 blue_book 📘 blue_car 🚙",
   "blue_circle 🔵 blue_heart 💙 blue_square 🟦 blush 😊 boar 🐗 boat ⛵ bolivia 🇧🇴 bomb 💣 bone 🦴",
   "book 📖 bookmark 🔖 bookmark_tabs 📑 books 📚 boom 💥 boot 👢 botswana 🇧🇼 bouquet 💐",
   "bouvet_island 🇧🇻 bow 🙇 bow_and_arrow 🏹 bowling 🎳 boxing_glove 🥊 boy 👦 brain 🧠 brazil 🇧🇷",
   "bread 🍞 breast-feeding 🤱 brick 🧱 briefcase 💼 briefs 🩲 bright_button 🔆 broccoli 🥦",
   "broken_heart 💔 broom 🧹 brown_circle 🟤 brown_heart 🤎 brown_square 🟫 brunei 🇧🇳 bug 🐛 bulb 💡",
   "bulgaria 🇧🇬 bullet_train 🚅 burkina_faso 🇧🇫 burrito 🌯 burundi 🇧🇮 bus 🚌 bus_stop 🚏 busstop 🚏",
   "butter 🧈 butterfly 🦋 cactus 🌵 cake 🍰 calendar 📆 call_me_hand 🤙 calling 📲 cambodia 🇰🇭",
   "camel 🐫 camera 📷 cameroon 🇨🇲 camping 🏕 canada 🇨🇦 canary_islands 🇮🇨 cancer ♋ candle 🕯",
   "candy 🍬 canned_food 🥫 canoe 🛶 cape_verde 🇨🇻 capital_abcd 🔠 capricorn ♑ car 🚗",
   "card_file_box 🗃 card_index 📇 carousel_horse 🎠 carp_streamer 🎏 carrot 🥕 castle 🏰 cat 🐱",
   "cat2 🐈 cat_face 🐱 cayman_islands 🇰🇾 cd 💿 chad 🇹🇩 chains ⛓ chair 🪑 chart 💹 checkered_flag 🏁",
   "cheese_wedge 🧀 chequered_flag 🏁 cherries 🍒 cherry_blossom 🌸 chess_pawn ♟ chestnut 🌰",
   "chicken 🐔 child 🧒 chile 🇨🇱 china 🇨🇳 chipmunk 🐿 chocolate_bar 🍫 chopsticks 🥢",
   "christmas_tree 🎄 church ⛪ cigarette 🚬 cinema 🎦 circled_m Ⓜ circus_tent 🎪 city_sunrise 🌇",
   "city_sunset 🌆 cityscape 🏙 cl 🆑 cl_button 🆑 clamp 🗜 clap 👏 clapper 🎬 clapper_board 🎬",
   "clapping_hands 👏 clipboard 📋 clock1 🕐 clock10 🕙 clock1030 🕥 clock11 🕚 clock1130 🕦",
   "clock12 🕛 clock1230 🕧 clock130 🕜 clock2 🕑 clock230 🕝 clock3 🕒 clock330 🕞 clock4 🕓",
   "clock430 🕟 clock5 🕔 clock530 🕠 clock6 🕕 clock630 🕡 clock7 🕖 clock730 🕢 clock8 🕗 clock830 🕣",
   "clock9 🕘 clock930 🕤 closed_book 📕 cloud ☁ clown_face 🤡 club_suit ♣ clubs ♣ clutch_bag 👝",
   "coat 🧥 cocktail 🍸 cocktail_glass 🍸 coconut 🥥 coffee ☕ coffin ⚰ cold_face 🥶 cold_sweat 😰",
   "collision 💥 colombia 🇨🇴 comet ☄ comoros 🇰🇲 compass 🧭 compression 🗜 computer 💻",
   "computer_disk 💽 computer_mouse 🖱 confetti_ball 🎊 confounded 😖 confused 😕 confused_face 😕",
   "construction 🚧 control_knobs 🎛 cook_islands 🇨🇰 cooked_rice 🍚 cookie 🍪 cooking 🍳 cool 🆒",
   "cool_button 🆒 cop 👮 copyright © corn 🌽 costa_rica 🇨🇷 couch_and_lamp 🛋 couple 👫",
   "couplekiss 💏 cow 🐮 cow2 🐄 cow_face 🐮 crab 🦀 crayon 🖍 credit_card 💳 crescent_moon 🌙",
   "cricket 🦗 cricket_game 🏏 croatia 🇭🇷 crocodile 🐊 croissant 🥐 cross_mark ❌ crossed_flags 🎌",
   "crossed_swords ⚔ crown 👑 cry 😢 crying_face 😢 crystal_ball 🔮 cuba 🇨🇺 cucumber 🥒",
   "cup_with_straw 🥤 cupcake 🧁 cupid 💘 curling_stone 🥌 curly_hair 🦱 curly_loop ➰ curry 🍛",
   "curry_rice 🍛 custard 🍮 customs 🛃 cut_of_meat 🥩 cyclone 🌀 cyprus 🇨🇾 czechia 🇨🇿 dagger 🗡",
   "dagger_knife 🗡 dancer 💃 dancers 👯 dango 🍡 dark_skin_tone 🏿 dart 🎯 dash 💨 dashing_away 💨",
   "date 📅 deaf_person 🧏 deciduous_tree 🌳 deer 🦌 delivery_truck 🚚 denmark 🇩🇰 derelict_house 🏚",
   "desert 🏜 desert_island 🏝 detective 🕵 diamond_suit ♦ diamonds ♦ diego_garcia 🇩🇬",
   "dim_button 🔅 direct_hit 🎯 disappointed 😞 diving_mask 🤿 diya_lamp 🪔 dizzy 💫 dizzy_face 😵",
   "djibouti 🇩🇯 dna 🧬 do_not_litter 🚯 dog 🐶 dog2 🐕 dog_face 🐶 dollar 💵 dolls 🎎 dolphin 🐬",
   "dominica 🇩🇲 door 🚪 doughnut 🍩 dove 🕊 dove_of_peace 🕊 down_arrow ⬇ dragon 🐉 dragon_face 🐲",
   "dress 👗 drooling_face 🤤 drop_of_blood 🩸 droplet 💧 drum 🥁 duck 🦆 dumpling 🥟 dvd 📀 e-mail 📧",
   "e__mail 📧 eagle 🦅 ear 👂 ear_of_corn 🌽 ear_of_rice 🌾 earth_africa 🌍 earth_americas 🌎",
   "earth_asia 🌏 ecuador 🇪🇨 egg 🍳 eggplant 🍆 egypt 🇪🇬 eight 8️⃣ eight-thirty 🕣 eject_button ⏏",
   "eject_symbol ⏏ el_salvador 🇸🇻 electric_plug 🔌 elephant 🐘 eleven-thirty 🕦 elf 🧝 email ✉",
   "end 🔚 end_arrow 🔚 england 🏴󠁧󠁢󠁥󠁮󠁧󠁿 envelope ✉ eritrea 🇪🇷 estonia 🇪🇪 ethiopia 🇪🇹 euro 💶",
   "euro_banknote 💶 european_union 🇪🇺 evergreen_tree 🌲 ewe 🐑 exclamation ❗ exploding_head 🤯",
   "expressionless 😑 eye 👁 eyeglasses 👓 eyes 👀 face_vomiting 🤮 facepunch 👊 factory 🏭 fairy 🧚",
   "falafel 🧆 fallen_leaf 🍂 family 👪 family_man_boy 👨‍👦 faroe_islands 🇫🇴 fast_forward ⏩",
   "fast_up_button ⏫ fax 📠 fax_machine 📠 fearful 😨 fearful_face 😨 feet 🐾 female_sign ♀",
   "ferris_wheel 🎡 ferry ⛴ field_hockey 🏑 fiji 🇫🇯 file_cabinet 🗄 file_folder 📁 film_frames 🎞",
   "film_projector 📽 finland 🇫🇮 fire 🔥 fire_engine 🚒 firecracker 🧨 fireworks 🎆 fish 🐟",
   "fish_cake 🍥 fishing_pole 🎣 fist ✊ five 5️⃣ five-thirty 🕠 flag_for_aruba 🇦🇼",
   "flag_for_benin 🇧🇯 flag_for_chad 🇹🇩 flag_for_chile 🇨🇱 flag_for_china 🇨🇳 flag_for_cuba 🇨🇺",
   "flag_for_egypt 🇪🇬 flag_for_fiji 🇫🇯 flag_for_gabon 🇬🇦 flag_for_ghana 🇬🇭 flag_for_guam 🇬🇺",
   "flag_for_haiti 🇭🇹 flag_for_india 🇮🇳 flag_for_iran 🇮🇷 flag_for_iraq 🇮🇶 flag_for_italy 🇮🇹",
   "flag_for_japan 🇯🇵 flag_for_kenya 🇰🇪 flag_for_laos 🇱🇦 flag_for_libya 🇱🇾 flag_for_macau 🇲🇴",
   "flag_for_mali 🇲🇱 flag_for_malta 🇲🇹 flag_for_nauru 🇳🇷 flag_for_nepal 🇳🇵 flag_for_niger 🇳🇪",
   "flag_for_niue 🇳🇺 flag_for_oman 🇴🇲 flag_for_palau 🇵🇼 flag_for_peru 🇵🇪 flag_for_qatar 🇶🇦",
   "flag_for_samoa 🇼🇸 flag_for_spain 🇪🇸 flag_for_sudan 🇸🇩 flag_for_syria 🇸🇾 flag_for_togo 🇹🇬",
   "flag_for_tonga 🇹🇴 flag_for_yemen 🇾🇪 flag_in_hole ⛳ flags 🎏 flamingo 🦩 flashlight 🔦",
   "flat_shoe 🥿 fleur-de-lis ⚜ fleur__de__lis ⚜ flexed_biceps 💪 flipper 🐬 floppy_disk 💾",
   "flushed 😳 flushed_face 😳 flying_disc 🥏 flying_saucer 🛸 fog 🌫 foggy 🌁 folded_hands 🙏 foot 🦶",
   "football 🏈 footprints 👣 fork_and_knife 🍴 fortune_cookie 🥠 fountain ⛲ fountain_pen 🖋",
   "four 4️⃣ four-thirty 🕟 fox_face 🦊 framed_picture 🖼 france 🇫🇷 free 🆓 free_button 🆓",
   "french_fries 🍟 french_guiana 🇬🇫 fried_shrimp 🍤 fries 🍟 frog 🐸 frog_face 🐸 frowning 😦",
   "frowning_face ☹ fuel_pump ⛽ fuelpump ⛽ full_moon 🌕 full_moon_face 🌝 funeral_urn ⚱ gabon 🇬🇦",
   "gambia 🇬🇲 game_die 🎲 garlic 🧄 gear ⚙ gem 💎 gem_stone 💎 gemini ♊ genie 🧞 georgia 🇬🇪",
   "germany 🇩🇪 ghana 🇬🇭 ghost 👻 gibraltar 🇬🇮 gift 🎁 gift_heart 💝 giraffe 🦒 girl 👧",
   "glass_of_milk 🥛 glasses 👓 gloves 🧤 glowing_star 🌟 goal_net 🥅 goat 🐐 goblin 👺 goggles 🥽",
   "golf ⛳ golfer 🏌 gorilla 🦍 graduation_cap 🎓 grapes 🍇 greece 🇬🇷 green_apple 🍏 green_book 📗",
   "green_circle 🟢 green_heart 💚 green_salad 🥗 green_square 🟩 greenland 🇬🇱 grenada 🇬🇩",
   "grey_question ❔ grimacing 😬 grimacing_face 😬 grin 😁 grinning 😀 grinning_face 😀",
   "growing_heart 💗 guadeloupe 🇬🇵 guam 🇬🇺 guard 💂 guardsman 💂 guatemala 🇬🇹 guernsey 🇬🇬",
   "guide_dog 🦮 guinea 🇬🇳 guinea-bissau 🇬🇼 guitar 🎸 gun 🔫 guyana 🇬🇾 haircut 💇 haiti 🇭🇹",
   "hamburger 🍔 hammer 🔨 hamster 🐹 hamster_face 🐹 hand ✋ handbag 👜 handshake 🤝 hankey 💩",
   "hatched_chick 🐥 hatching_chick 🐣 headphone 🎧 headphones 🎧 hear_no_evil 🙉 heart ❤",
   "heart_eyes 😍 heart_eyes_cat 😻 heart_suit ♥ heartbeat 💓 heartpulse 💗 hearts ♥ hedgehog 🦔",
   "helicopter 🚁 helm_symbol ⎈ herb 🌿 hibiscus 🌺 high_heel 👠 high_voltage ⚡ hiking_boot 🥾",
   "hindu_temple 🛕 hippopotamus 🦛 hocho 🔪 hole 🕳 honduras 🇭🇳 honey_pot 🍯 honeybee 🐝 horse 🐴",
   "horse_face 🐴 horse_racing 🏇 hospital 🏥 hot_beverage ☕ hot_dog 🌭 hot_face 🥵 hot_pepper 🌶",
   "hot_springs ♨ hotel 🏨 hotsprings ♨ hourglass ⌛ hourglass_done ⌛ house 🏠 houses 🏘",
   "hugging_face 🤗 hundred_points 💯 hungary 🇭🇺 hushed 😯 hushed_face 😯 ice 🧊 ice_cream 🍨",
   "ice_hockey 🏒 ice_skate ⛸ icecream 🍦 iceland 🇮🇸 id 🆔 id_button 🆔 imp 👿 inbox_tray 📥",
   "india 🇮🇳 indonesia 🇮🇩 infinity ♾ information ℹ innocent 😇 input_numbers 🔢 input_symbols 🔣",
   "interrobang ⁉ iphone 📱 iran 🇮🇷 iraq 🇮🇶 ireland 🇮🇪 isle_of_man 🇮🇲 israel 🇮🇱 italy 🇮🇹",
   "jack-o-lantern 🎃 jack_o_lantern 🎃 jamaica 🇯🇲 japan 🗾 japanese_dolls 🎎 japanese_ogre 👹",
   "jeans 👖 jersey 🇯🇪 jigsaw 🧩 joker 🃏 jordan 🇯🇴 joy 😂 joy_cat 😹 joystick 🕹 kaaba 🕋 kangaroo 🦘",
   "kazakhstan 🇰🇿 kenya 🇰🇪 key 🔑 keyboard ⌨ keycap_# #️⃣ keycap_* *️⃣ keycap_0 0️⃣",
   "keycap_1 1️⃣ keycap_10 🔟 keycap_2 2️⃣ keycap_3 3️⃣ keycap_4 4️⃣ keycap_5 5️⃣ keycap_6 6️⃣",
   "keycap_7 7️⃣ keycap_8 8️⃣ keycap_9 9️⃣ kick_scooter 🛴 kimono 👘 kiribati 🇰🇮 kiss 💋",
   "kiss_man_man 👨‍❤️‍💋‍👨 kiss_mark 💋 kiss_woman_man 👩‍❤️‍💋‍👨 kissing 😗 kissing_cat 😽",
   "kissing_face 😗 kissing_heart 😘 kitchen_knife 🔪 kite 🪁 kiwi_fruit 🥝 knife 🔪 koala 🐨 koko 🈁",
   "kosovo 🇽🇰 kuwait 🇰🇼 kyrgyzstan 🇰🇬 lab_coat 🥼 label 🏷 lacrosse 🥍 lady_beetle 🐞 lantern 🏮",
   "laos 🇱🇦 latin_cross ✝ latvia 🇱🇻 laughing 😆 leafy_green 🥬 leaves 🍃 lebanon 🇱🇧 ledger 📒",
   "left_arrow ⬅ left_luggage 🛅 leg 🦵 lemon 🍋 leo ♌ leopard 🐆 lesotho 🇱🇸 level_slider 🎚",
   "liberia 🇱🇷 libra ♎ libya 🇱🇾 liechtenstein 🇱🇮 light_bulb 💡 light_rail 🚈 link 🔗 lion_face 🦁",
   "lips 👄 lipstick 💄 lithuania 🇱🇹 lizard 🦎 llama 🦙 lobster 🦞 lock 🔒 locked 🔒 locomotive 🚂",
   "lollipop 🍭 loop ➿ lotion_bottle 🧴 loud_sound 🔊 loudspeaker 📢 love_hotel 🏩 love_letter 💌",
   "low_brightness 🔅 luggage 🧳 luxembourg 🇱🇺 lying_face 🤥 m Ⓜ macedonia 🇲🇰 madagascar 🇲🇬 mag 🔍",
   "mag_right 🔎 mage 🧙 magnet 🧲 mahjong 🀄 mailbox 📫 mailbox_closed 📪 malawi 🇲🇼 malaysia 🇲🇾",
   "maldives 🇲🇻 male_sign ♂ mali 🇲🇱 malta 🇲🇹 man 👨 man_artist 👨‍🎨 man_astronaut 👨‍🚀",
   "man_biking 🚴‍♂️ man_bowing 🙇‍♂️ man_climbing 🧗‍♂️ man_cook 👨‍🍳 man_dancing 🕺",
   "man_detective 🕵️‍♂️ man_elf 🧝‍♂️ man_fairy 🧚‍♂️ man_farmer 👨‍🌾 man_frowning 🙍‍♂️",
   "man_genie 🧞‍♂️ man_golfing 🏌️‍♂️ man_guard 💂‍♂️ man_in_tuxedo 🤵 man_judge 👨‍⚖️",
   "man_juggling 🤹‍♂️ man_mage 🧙‍♂️ man_mechanic 👨‍🔧 man_pilot 👨‍✈️ man_pouting 🙎‍♂️",
   "man_running 🏃‍♂️ man_scientist 👨‍🔬 man_shrugging 🤷‍♂️ man_singer 👨‍🎤 man_student 👨‍🎓",
   "man_surfing 🏄‍♂️ man_swimming 🏊‍♂️ man_teacher 👨‍🏫 man_vampire 🧛‍♂️ man_walking 🚶‍♂️",
   "man_zombie 🧟‍♂️ mango 🥭 mans_shoe 👞 map_of_japan 🗾 maple_leaf 🍁 martinique 🇲🇶 mask 😷",
   "massage 💆 mate 🧉 mauritania 🇲🇷 mauritius 🇲🇺 mayotte 🇾🇹 meat_on_bone 🍖 mechanical_arm 🦾",
   "mechanical_leg 🦿 medical_symbol ⚕ mega 📣 megaphone 📣 melon 🍈 memo 📝 men_wrestling 🤼‍♂️",
   "menorah 🕎 mens 🚹 mermaid 🧜‍♀️ merman 🧜‍♂️ merperson 🧜 metro 🚇 mexico 🇲🇽 microbe 🦠",
   "micronesia 🇫🇲 microphone 🎤 microscope 🔬 middle_finger 🖕 military_medal 🎖 milky_way 🌌",
   "minibus 🚐 minidisc 💽 moai 🗿 mobile_phone 📱 moldova 🇲🇩 monaco 🇲🇨 money_bag 💰 moneybag 💰",
   "mongolia 🇲🇳 monkey 🐒 monkey_face 🐵 monorail 🚝 montenegro 🇲🇪 montserrat 🇲🇸 moon 🌔",
   "moon_cake 🥮 morocco 🇲🇦 mortar_board 🎓 mosque 🕌 mosquito 🦟 motor_boat 🛥 motor_scooter 🛵",
   "motorcycle 🏍 motorway 🛣 mount_fuji 🗻 mountain ⛰ mouse 🐭 mouse2 🐁 mouse_face 🐭 mouth 👄",
   "movie_camera 🎥 moyai 🗿 mozambique 🇲🇿 mrs._claus 🤶 muscle 💪 mushroom 🍄 musical_note 🎵",
   "musical_notes 🎶 musical_score 🎼 mute 🔇 muted_speaker 🔇 nail_care 💅 nail_polish 💅",
   "name_badge 📛 namibia 🇳🇦 national_park 🏞 nauru 🇳🇷 nauseated_face 🤢 nazar_amulet 🧿 necktie 👔",
   "nepal 🇳🇵 nerd_face 🤓 netherlands 🇳🇱 neutral_face 😐 new 🆕 new_button 🆕 new_caledonia 🇳🇨",
   "new_moon 🌑 new_moon_face 🌚 new_zealand 🇳🇿 newspaper 📰 ng 🆖 ng_button 🆖 nicaragua 🇳🇮",
   "niger 🇳🇪 nigeria 🇳🇬 nine 9️⃣ nine-thirty 🕤 niue 🇳🇺 no_bell 🔕 no_bicycles 🚳 no_entry ⛔",
   "no_entry_sign 🚫 no_good 🙅 no_littering 🚯 no_mouth 😶 no_pedestrians 🚷 no_smoking 🚭",
   "norfolk_island 🇳🇫 north_korea 🇰🇵 norway 🇳🇴 nose 👃 notebook 📓 notes 🎶 nut_and_bolt 🔩 o ⭕",
   "o2 🅾 ocean 🌊 octopus 🐙 oden 🍢 office 🏢 ogre 👹 oil_drum 🛢 ok 🆗 ok_button 🆗 ok_hand 👌",
   "ok_woman 🙆 old_key 🗝 old_man 👴 old_woman 👵 older_adult 🧓 older_man 👴 older_woman 👵 om 🕉",
   "om_symbol 🕉 oman 🇴🇲 on 🔛 on!_arrow 🔛 oncoming_bus 🚍 oncoming_fist 👊 oncoming_taxi 🚖",
   "one 1️⃣ one-thirty 🕜 onion 🧅 open_book 📖 open_hands 👐 open_mouth 😮 ophiuchus ⛎",
   "optical_disk 💿 orange_book 📙 orange_circle 🟠 orange_heart 🧡 orange_square 🟧 orangutan 🦧",
   "orthodox_cross ☦ otter 🦦 outbox_tray 📤 owl 🦉 ox 🐂 oyster 🦪 p_button 🅿 package 📦",
   "page_facing_up 📄 page_with_curl 📃 pager 📟 paintbrush 🖌 pakistan 🇵🇰 palau 🇵🇼 palm_tree 🌴",
   "panama 🇵🇦 pancakes 🥞 panda_face 🐼 paperclip 📎 paraguay 🇵🇾 parking 🅿 parrot 🦜",
   "partly_sunny ⛅ party_popper 🎉 partying_face 🥳 passenger_ship 🛳 pause_button ⏸ paw_prints 🐾",
   "peace_symbol ☮ peach 🍑 peacock 🦚 peanuts 🥜 pear 🍐 pen 🖊 pencil 📝 pencil2 ✏ penguin 🐧",
   "pensive 😔 pensive_face 😔 persevere 😣 person_biking 🚴 person_bowing 🙇 person_fencing 🤺",
   "person_golfing 🏌 person_in_bed 🛌 person_pouting 🙎 person_running 🏃 person_surfing 🏄",
   "person_walking 🚶 peru 🇵🇪 petri_dish 🧫 philippines 🇵🇭 phone ☎ pick ⛏ pie 🥧 pig 🐷 pig2 🐖",
   "pig_face 🐷 pig_nose 🐽 pile_of_poo 💩 pill 💊 pinching_hand 🤏 pineapple 🍍 ping_pong 🏓",
   "pirate_flag 🏴‍☠️ pisces ♓ pistol 🔫 pizza 🍕 play_button ▶ pleading_face 🥺 point_down 👇",
   "point_left 👈 point_right 👉 point_up ☝ point_up_2 👆 poland 🇵🇱 police_car 🚓 police_officer 👮",
   "poodle 🐩 pool_8_ball 🎱 poop 💩 popcorn 🍿 portugal 🇵🇹 post_office 🏣 postal_horn 📯 postbox 📮",
   "pot_of_food 🍲 potable_water 🚰 potato 🥔 pouch 👝 poultry_leg 🍗 pound 💷 pound_banknote 💷",
   "pouting_cat 😾 pouting_face 😡 pray 🙏 prayer_beads 📿 pregnant_woman 🤰 pretzel 🥨 prince 🤴",
   "princess 👸 printer 🖨 probing_cane 🦯 prohibited 🚫 puerto_rico 🇵🇷 punch 👊 purple_circle 🟣",
   "purple_heart 💜 purple_square 🟪 purse 👛 pushpin 📌 qatar 🇶🇦 question ❓ question_mark ❓",
   "rabbit 🐰 rabbit2 🐇 rabbit_face 🐰 raccoon 🦝 racehorse 🐎 racing_car 🏎 radio 📻 radio_button 🔘",
   "radioactive ☢ rage 😡 railway_car 🚃 railway_track 🛤 rainbow 🌈 rainbow_flag 🏳️‍🌈",
   "raised_fist ✊ raised_hand ✋ raised_hands 🙌 raising_hand 🙋 raising_hands 🙌 ram 🐏 ramen 🍜",
   "rat 🐀 razor 🪒 receipt 🧾 record_button ⏺ recycle ♻ red-haired_man 👨‍🦰 red_apple 🍎 red_car 🚗",
   "red_circle 🔴 red_envelope 🧧 red_hair 🦰 red_heart ❤ red_square 🟥 registered ® relaxed ☺",
   "relieved 😌 relieved_face 😌 repeat 🔁 repeat_button 🔁 repeat_one 🔂 restroom 🚻",
   "reverse_button ◀ rewind ⏪ rhinoceros 🦏 ribbon 🎀 rice 🍚 rice_ball 🍙 rice_cracker 🍘",
   "rice_scene 🎑 right_arrow ➡ ring 💍 ringed_planet 🪐 robot 🤖 robot_face 🤖 rocket 🚀",
   "roll_of_paper 🧻 roller_coaster 🎢 romania 🇷🇴 rooster 🐓 rose 🌹 rosette 🏵 rotating_light 🚨",
   "round_pushpin 📍 rowboat 🚣 rugby_football 🏉 runner 🏃 running 🏃 running_shirt 🎽",
   "running_shoe 👟 russia 🇷🇺 rwanda 🇷🇼 sa 🈂 safety_pin 🧷 safety_vest 🦺 sagittarius ♐",
   "sailboat ⛵ sake 🍶 salt 🧂 samoa 🇼🇸 san_marino 🇸🇲 sandal 👡 sandwich 🥪 santa 🎅 santa_claus 🎅",
   "sari 🥻 satellite 📡 satisfied 😆 saudi_arabia 🇸🇦 sauropod 🦕 saxophone 🎷 scales ⚖ scarf 🧣",
   "school 🏫 school_satchel 🎒 scissors ✂ scorpio ♏ scorpion 🦂 scorpius ♏ scotland 🏴󠁧󠁢󠁳󠁣󠁴󠁿",
   "scream 😱 scream_cat 🙀 scroll 📜 seat 💺 secret ㊙ see_no_evil 🙈 seedling 🌱 selfie 🤳",
   "senegal 🇸🇳 serbia 🇷🇸 service_dog 🐕‍🦺 seven 7️⃣ seven-thirty 🕢 seychelles 🇸🇨 shamrock ☘",
   "shark 🦈 shaved_ice 🍧 sheaf_of_rice 🌾 sheep 🐑 shell 🐚 shield 🛡 shinto_shrine ⛩ ship 🚢",
   "shirt 👕 shit 💩 shoe 👞 shooting_star 🌠 shopping_bags 🛍 shopping_cart 🛒 shortcake 🍰 shorts 🩳",
   "shower 🚿 shrimp 🦐 shushing_face 🤫 sierra_leone 🇸🇱 singapore 🇸🇬 sint_maarten 🇸🇽 six 6️⃣",
   "six-thirty 🕡 skateboard 🛹 ski 🎿 skier ⛷ skis 🎿 skull 💀 skunk 🦨 sled 🛷 sleeping 😴",
   "sleeping_face 😴 sleepy 😪 sleepy_face 😪 sleuth_or_spy 🕵 slot_machine 🎰 sloth 🦥 slovakia 🇸🇰",
   "slovenia 🇸🇮 small_airplane 🛩 smile 😄 smile_cat 😸 smiley 😃 smiley_cat 😺 smiling_face ☺",
   "smiling_imp 😈 smirk 😏 smirk_cat 😼 smirking_face 😏 smoking 🚬 snail 🐌 snake 🐍",
   "sneezing_face 🤧 snowboarder 🏂 snowflake ❄ snowman ☃ soap 🧼 sob 😭 soccer ⚽ soccer_ball ⚽",
   "socks 🧦 soft_ice_cream 🍦 softball 🥎 somalia 🇸🇴 soon 🔜 soon_arrow 🔜 sos 🆘 sos_button 🆘",
   "sound 🔉 south_africa 🇿🇦 south_korea 🇰🇷 south_sudan 🇸🇸 space_invader 👾 spade_suit ♠",
   "spades ♠ spaghetti 🍝 spain 🇪🇸 sparkle ❇ sparkler 🎇 sparkles ✨ speak_no_evil 🙊 speaker 🔈",
   "speaking_head 🗣 speech_balloon 💬 speedboat 🚤 spider 🕷 spider_web 🕸 spiral_notepad 🗒",
   "spiral_shell 🐚 sponge 🧽 spoon 🥄 sports_medal 🏅 spouting_whale 🐳 squid 🦑 sri_lanka 🇱🇰",
   "st._helena 🇸🇭 st._lucia 🇱🇨 st._martin 🇲🇫 stadium 🏟 star ⭐ star-struck 🤩 star2 🌟",
   "star_of_david ✡ stars 🌠 station 🚉 steaming_bowl 🍜 stethoscope 🩺 stew 🍲 stop_button ⏹",
   "stop_sign 🛑 stopwatch ⏱ straight_ruler 📏 strawberry 🍓 sudan 🇸🇩 sun ☀ sun_with_face 🌞",
   "sunflower 🌻 sunglasses 😎 sunny ☀ sunrise 🌅 sunset 🌇 superhero 🦸 supervillain 🦹 surfer 🏄",
   "suriname 🇸🇷 sushi 🍣 swan 🦢 swaziland 🇸🇿 sweat 😓 sweat_droplets 💦 sweat_drops 💦",
   "sweat_smile 😅 sweden 🇸🇪 sweet_potato 🍠 swimmer 🏊 switzerland 🇨🇭 symbols 🔣 synagogue 🕍",
   "syria 🇸🇾 syringe 💉 t-rex 🦖 t-shirt 👕 taco 🌮 tada 🎉 taiwan 🇹🇼 tajikistan 🇹🇯 takeout_box 🥡",
   "tanabata_tree 🎋 tangerine 🍊 tanzania 🇹🇿 taurus ♉ taxi 🚕 tea 🍵 teddy_bear 🧸 telephone ☎",
   "telescope 🔭 television 📺 ten 🔟 ten-thirty 🕥 tennis 🎾 tent ⛺ test_tube 🧪 thailand 🇹🇭",
   "thermometer 🌡 thinking_face 🤔 thread 🧵 three 3️⃣ three-thirty 🕞 thumbs_down 👎 thumbs_up 👍",
   "thumbsdown 👎 thumbsup 👍 ticket 🎫 tiger 🐯 tiger2 🐅 tiger_face 🐯 timer_clock ⏲",
   "timor-leste 🇹🇱 tired_face 😫 tm ™ togo 🇹🇬 toilet 🚽 tokelau 🇹🇰 tokyo_tower 🗼 tomato 🍅",
   "tonga 🇹🇴 tongue 👅 toolbox 🧰 tooth 🦷 top 🔝 top_arrow 🔝 top_hat 🎩 tophat 🎩 tornado 🌪",
   "trackball 🖲 tractor 🚜 trade_mark ™ traffic_light 🚥 train 🚋 train2 🚆 tram 🚊 tram_car 🚋",
   "trident 🔱 trident_emblem 🔱 triumph 😤 trolleybus 🚎 trophy 🏆 tropical_drink 🍹",
   "tropical_fish 🐠 truck 🚚 trumpet 🎺 tshirt 👕 tulip 🌷 tumbler_glass 🥃 tunisia 🇹🇳 turkey 🦃",
   "turkmenistan 🇹🇲 turtle 🐢 tuvalu 🇹🇻 tv 📺 twelve-thirty 🕧 two 2️⃣ two-hump_camel 🐫",
   "two-thirty 🕝 two_hearts 💕 u5272 🈹 u5408 🈴 u55b6 🈺 u6307 🈯 u6708 🈷 u6709 🈶 u6e80 🈵 u7121 🈚",
   "u7533 🈸 u7981 🈲 u7a7a 🈳 uganda 🇺🇬 ukraine 🇺🇦 umbrella ☂ unamused 😒 unamused_face 😒",
   "underage 🔞 unicorn_face 🦄 united_kingdom 🇬🇧 united_nations 🇺🇳 united_states 🇺🇸 unlock 🔓",
   "unlocked 🔓 up 🆙 up!_button 🆙 up-down_arrow ↕ up-left_arrow ↖ up-right_arrow ↗ up_arrow ⬆",
   "upwards_button 🔼 uruguay 🇺🇾 uzbekistan 🇺🇿 v ✌ vampire 🧛 vanuatu 🇻🇺 vatican_city 🇻🇦",
   "venezuela 🇻🇪 vhs 📼 vibration_mode 📳 victory_hand ✌ video_camera 📹 video_game 🎮",
   "videocassette 📼 vietnam 🇻🇳 violin 🎻 virgo ♍ volcano 🌋 volleyball 🏐 vs 🆚 vs_button 🆚",
   "vulcan_salute 🖖 waffle 🧇 wales 🏴󠁧󠁢󠁷󠁬󠁳󠁿 walking 🚶 warning ⚠ wastebasket 🗑 watch ⌚",
   "water_buffalo 🐃 water_closet 🚾 water_wave 🌊 watermelon 🍉 wave 👋 waving_hand 👋 wavy_dash 〰",
   "wc 🚾 weary 😩 weary_cat_face 🙀 weary_face 😩 wedding 💒 weight_lifter 🏋 western_sahara 🇪🇭",
   "whale 🐳 whale2 🐋 wheelchair ♿ white_circle ⚪ white_flag 🏳 white_flower 💮 white_hair 🦳",
   "white_heart 🤍 wilted_flower 🥀 wind_chime 🎐 wind_face 🌬 wine_glass 🍷 wink 😉 winking_face 😉",
   "wolf 🐺 wolf_face 🐺 woman 👩 woman_artist 👩‍🎨 woman_biking 🚴‍♀️ woman_bowing 🙇‍♀️",
   "woman_climbing 🧗‍♀️ woman_cook 👩‍🍳 woman_dancing 💃 woman_elf 🧝‍♀️ woman_fairy 🧚‍♀️",
   "woman_farmer 👩‍🌾 woman_frowning 🙍‍♀️ woman_genie 🧞‍♀️ woman_golfing 🏌️‍♀️ woman_guard 💂‍♀️",
   "woman_judge 👩‍⚖️ woman_juggling 🤹‍♀️ woman_mage 🧙‍♀️ woman_mechanic 👩‍🔧 woman_pilot 👩‍✈️",
   "woman_pouting 🙎‍♀️ woman_running 🏃‍♀️ woman_singer 👩‍🎤 woman_student 👩‍🎓",
   "woman_surfing 🏄‍♀️ woman_swimming 🏊‍♀️ woman_teacher 👩‍🏫 woman_vampire 🧛‍♀️",
   "woman_walking 🚶‍♀️ woman_zombie 🧟‍♀️ womans_clothes 👚 womans_hat 👒 womens 🚺 woozy_face 🥴",
   "world_map 🗺 worried 😟 worried_face 😟 wrapped_gift 🎁 wrench 🔧 writing_hand ✍ x ❌ yarn 🧶",
   "yawning_face 🥱 yellow_circle 🟡 yellow_heart 💛 yellow_square 🟨 yemen 🇾🇪 yen 💴",
   "yen_banknote 💴 yin_yang ☯ yo-yo 🪀 yum 😋 zambia 🇿🇲 zany_face 🤪 zap ⚡ zebra 🦓 zero 0️⃣",
   "zimbabwe 🇿🇼 zombie 🧟 zzz 💤"]

/-- The emoji by their names. -/
def emojiTable : List (Text × Text) := emojiRows.flatMap fun row => inPairs (words row.toList)

end Chip8.Text
