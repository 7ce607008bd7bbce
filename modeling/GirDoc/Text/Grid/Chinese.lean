/-!
# Simplified Chinese characters

The characters of the Chinese coded sets, in runs of cells. Each run is given by the number of its first
cell and the characters from there on.
-/

namespace GirDoc.Text.Grid.Run

/-- The characters of GB 2312. -/
def gb2312 : List (Nat × String) :=
  [(0, "\u300088c8ˉ5¨〃9―～‖G)8:8〔8*!'>808±×W∶(8`05R6`&`v`*az^w2c1_&_1:`z`23,`'a2E8,8_XN6l55°′8bg＄¤￠8‰§№ng6_e;606_z6J6"),
    (88, "※d>589〓"), (110, "⒈!3_x!3_x!)"), (162, "㈠!)"), (174, "Ⅰ!+"), (188, "！88by]o!xauぁ!r"), (376, "ァ!u"),
    (470, "Α!09!&"), (502, "α!09!&"), (564, "А!%#L!9"), (612, "а!%Sж!9"), (658, "āáǎàēéěèīíǐìōóǒòūúǔùǖ999ü%"),
    (694, "ㄅ!D"), (755, "─!k"),
    (1410, "啊阿埃挨哎a*_V皑_Z蔼矮艾碍爱隘c4氨安俺按je岸胺案肮昂盎凹敖熬翱yB傲ybxl澳芭捌]U叭a)笆八疤巴nW跋靶把耙坝霸罢爸ll柏百摆佰败拜稗斑班搬扳般颁板版扮aM伴瓣半^K绊邦帮梆cU膀绑棒磅蚌镑傍谤"),
    (1499, "苞胞包褒剥薄雹保xK饱宝u#+l6豹鲍爆杯碑悲卑_e辈背贝v;倍狈备wC焙被奔苯本笨崩绷甭泵蹦dya3鼻比鄙笔彼碧蓖aV毕;4币au痹闭敝弊bR辟壁臂避qKd9边编贬扁便l@_%辨89b9标彪膘t7鳖憋别瘪彬"),
    (1586, "斌濒]e宾y9兵a*柄丙秉饼炳o1并玻菠播拨钵波博^`搏铂箔伯帛舶]/ac渤泊驳捕卜e-补埠不布步簿部怖nG猜裁材才财睬踩ju彩菜d,餐参蚕残惭2灿苍^[仓沧藏操糙槽曹草厕策侧et测层蹭插叉茬A查碴搽察bL"),
    (1675, "差诧拆oM豺搀_Y蝉馋谗缠铲产阐gs昌猖场nZfR长偿肠厂敞畅唱倡超抄钞朝嘲潮巢吵炒车扯fl]N彻澈郴臣辰尘晨忱沉陈趁衬撑称城橙成呈乘程惩澄诚承逞骋秤吃痴持匙池迟弛驰耻齿侈尺赤翅斥炽充冲虫崇宠u,酬畴踌稠愁筹"),
    (1771, "仇绸瞅丑臭初`$橱厨躇s<eZ滁除楚础储矗搐触处揣川穿椽传船喘串疮n`幢`o闯创fU炊捶锤垂春iI醇唇淳纯蠢戳绰疵茨磁雌辞慈瓷词此刺赐次聪l.囱匆从^Dk5粗醋簇促蹿篡窜摧崔催脆瘁sw淬翠村存b7磋撮搓_6"),
    (1861, "挫错搭达答瘩打大呆歹傣戴带殆代贷袋待逮怠耽担丹o;郸掸胆旦r_但惮淡诞弹蛋当kM党荡档刀捣蹈倒岛祷导到稻悼道盗德`'的蹬灯r#nE瞪凳邓堤低滴迪敌笛狄涤翟嫡w3底地蒂第帝cA递缔颠掂滇碘点典靛垫电佃甸店g.奠"),
    (1956, "淀殿碉叼雕凋a%掉吊钓调eX爹s%蝶y&谍叠丁盯叮钉klsW锭定订丢1jg董懂动栋侗恫冻洞兜抖i0陡豆kP痘都督毒swaQ读堵睹赌杜镀肚度渡妒端短锻段断缎堆兑队对墩吨蹲敦顿囤钝盾遁掇哆m#W垛躲朵跺舵剁惰堕蛾"),
    (2048, "峨鹅俄额讹娥rh厄扼遏bJy,恩而儿耳尔饵洱二贰发罚筏伐^6阀法tb藩帆番翻樊矾钒繁凡烦反返范贩犯饭泛坊芳方肪房防妨仿访纺放菲非啡飞肥匪诽吠肺废沸费芬酚吩氛分纷坟焚汾粉奋份忿cd粪丰封枫蜂峰锋kB疯烽逢冯缝讽"),
    (2145, "奉凤佛nBo$敷肤孵tha;辐幅氟符伏b`服rxa+福袱弗甫抚辅俯釜斧脯Y府腐赴副覆kD复傅付阜父腹负富讣附妇缚咐eu_7该改lp钙盖溉干甘杆az竿pe赶感秆敢赣冈b)钢缸dJ纲岗港杠篙皋高膏羔糕搞镐稿告b2"),
    (2233, "歌搁戈鸽胳疙割革葛格蛤阁b*铬个qI给根跟耕更庚羹埂耿梗工ue功恭龚供躬公宫j?]%汞拱贡共钩勾沟苟狗垢构购够辜菇咕箍估沽孤姑鼓古蛊骨谷股故顾固雇刮瓜剐寡u0褂乖拐怪z'关官冠观管馆罐惯灌贯光广逛瑰规圭硅归龟"),
    (2330, "闺轨鬼诡癸桂_9跪^B刽辊滚棍锅郭国果裹t5哈骸孩海氦亥害骇酣憨邯uI含涵寒函jd罕b2撼捍h+憾悍焊汗)夯杭航壕嚎豪毫郝好耗号浩呵cg荷aG核禾和何n*盒貉阂河cD赫褐鹤贺嘿黑痕很狠恨哼亨横衡恒轰哄烘虹鸿洪"),
    (2423, "宏j`红喉侯猴吼^U候kta]乎忽瑚壶葫胡sR狐糊湖弧虎唬护互沪户花哗华猾滑s)划cC话槐徊ae淮坏欢y<桓还缓换患唤痪豢焕涣宦幻荒慌黄磺蝗簧皇凰惶煌晃幌f8谎灰挥辉徽b<蛔回毁悔bj卉惠pM贿秽会烩汇讳a."),
    (2513, "绘m[昏婚魂浑b=豁活伙火获或惑霍货祸击obbS机畸n<_Qe5nn饥迹激讥鸡姬绩W吉极d>辑籍集及急疾汲即ue级挤几脊己蓟技冀季伎祭剂悸济寄5计F既忌际妓继_b嘉枷夹佳家加荚颊贾甲钾假稼价架驾嫁歼监坚n3笺"),
    (2605, "间煎兼肩eV奸缄lJ检^#碱_e拣am简俭剪减荐槛鉴践^3见键箭件dV舰剑饯渐ad]q建僵z>fa浆]h疆蒋桨奖讲匠酱nS蕉椒礁焦胶交郊浇骄娇嚼搅铰矫侥脚狡角饺缴_I剿教酵轿;叫窖揭_W皆jI街阶截劫节桔]k"),
    (2692, "捷睫jY洁结解姐xI藉芥界借介疥诫届eC筋斤金今津襟紧锦仅谨k2vO晋禁近烬浸尽劲荆兢茎睛晶鲸京惊精,fS井警景颈静境敬镜径痉靖竟6净炯窘揪究lQ玖韭久灸九酒厩救b-臼@咎vZ疚鞠拘狙hk居驹菊局咀矩举沮聚拒"),
    (2786, "据巨具距a0tx俱ks惧炬剧捐鹃娟倦眷卷绢撅b=抉cN倔爵觉决诀绝均菌钧军g_z7俊竣浚郡骏喀]e卡d5开n`pU凯慨刊r7勘mE砍]M康hG糠扛a+亢炕考拷烤靠坷苛柯cE磕颗科壳咳^3渴克c/客课肯啃gB"),
    (2869, "恳坑吭空恐孔xZ]H口扣寇枯哭窟xN酷库裤夸垮挎跨胯块筷侩快宽款匡筐狂框矿^.旷况亏盔岿窥葵奎魁傀馈愧溃坤昆捆困括^t廓阔垃拉喇蜡腊辣啦莱来赖蓝婪栏拦篮阑兰澜谰揽览懒缆烂滥o?榔狼廊郎朗rj捞劳牢老佬姥酪烙涝"),
    (2966, "勒乐雷镭蕾磊m4儡s0擂肋类泪棱楞冷ep梨犁黎篱狸t*漓nj李里鲤礼莉_j吏栗丽ok]w砾历利傈]Ra4痢n`eV沥隶力璃哩俩联j5连pY廉d:涟帘uR脸链恋炼练粮凉梁粱q-两辆g(晾亮谅撩聊僚疗燎寥辽潦了撂"),
    (3052, "镣廖t*列裂烈劣猎cd林磷霖临邻鳞淋凛赁吝拎玲菱零y=铃伶羚凌灵陵岭领另令溜p4榴硫馏留刘瘤流柳六龙聋咙笼^z隆垄拢陇楼娄搂篓漏陋芦卢颅庐炉掳卤虏鲁fI碌露路^J鹿潞禄录陆戮驴吕铝侣旅履3缕uK氯律率滤绿峦"),
    (3147, "挛孪滦卵乱掠略抡轮伦_J沦纶论萝jt罗逻n_箩骡裸落洛骆络妈麻玛m5蚂马M嘛吗k3买麦卖迈脉瞒馒蛮满蔓曼慢漫谩芒b0盲氓忙莽猫茅锚毛矛铆卯茂冒帽貌bC么玫枚c*酶pZ煤没眉媒镁每美昧寐妹bx门F们萌b$檬盟锰"),
    (3240, "猛梦孟眯醚q6糜迷谜弥米秘觅泌蜜密g[棉眠w4冕_Wdcuo缅面苗描瞄藐秒渺庙妙蔑灭民抿皿敏悯闽明螟鸣铭名a_谬摸8蘑模膜磨摩魔抹mA莫墨默沫gT寞陌谋牟某拇牡亩姆母墓暮幕募慕qB目ag牧w>拿哪^]钠那娜纳"),
    (3331, "氖乃奶耐奈南男难囊挠脑恼闹淖呢馁内嫩能妮霓倪泥尼sb你k^腻逆溺蔫拈年碾撵捻念娘酿鸟尿tw聂孽啮镊:涅您uG狞凝宁uu泞pD扭钮纽g5浓农弄奴努怒女暖虐疟挪懦糯诺哦欧鸥殴藕呕偶沤啪趴爬帕f7琶拍排牌徘湃]J攀"),
    (3426, "潘v7f/盼畔判eF乓庞u2耪bC抛咆刨炮袍oc泡呸胚培裴m/zm配佩沛喷盆dQ抨烹澎彭蓬棚硼jRpx朋鹏捧碰坯砒霹批`y劈琵毗啤脾疲c;匹痞僻屁譬篇偏片骗飘漂qOmU撇瞥拼频贫品聘乒zo苹cS平凭瓶评屏坡泼"),
    (3513, "颇婆破魄迫粕剖扑铺仆莆br_'b`埔朴圃普t_谱曝瀑期lB栖戚妻七k@漆柒n4其棋奇歧畦崎脐齐旗祈0骑起岂乞b:oMoA砌器气迄弃汽aU讫掐恰洽oW扦钎a&千迁签仟谦乾黔钱9前潜遣浅谴堑oZ欠`p枪呛腔羌墙蔷"),
    (3602, "强j?橇锹敲悄w@瞧乔d;巧鞘撬翘峭俏窍切茄且怯窃钦侵]L秦琴勤芹擒禽寝沁青轻氢倾ip清擎e5q+情顷请庆琼rR^K丘邱球求囚酋泅趋区蛆曲躯屈驱渠取rw龋趣去j$颧权醛泉全痊拳犬券aT缺炔pk却鹊榷确雀裙群然"),
    (3693, "燃冉染瓤壤攘嚷让饶扰绕惹热壬仁0忍韧任认刃v>纫扔仍日戎茸dx荣lQ熔溶容绒冗揉l2肉h7nS儒孺如辱乳汝入褥rat&蕊瑞锐bw润若弱p(y/萨腮鳃塞赛三q'伞散hu嗓丧搔骚扫嫂瑟色涩森僧莎砂杀刹沙纱傻my煞"),
    (3783, "筛晒珊苫杉山删煽衫闪aZ擅赡膳善汕扇缮墒伤r9赏晌上尚裳梢捎稍烧芍勺韶少哨邵绍奢赊蛇舌8赦摄射ol涉社设砷申呻伸身深娠绅神沈审]$甚肾慎渗声生=牲升绳省_y剩胜圣tL失狮施yq诗尸虱十石拾i'什食蚀实识史矢使"),
    (3879, "屎驶始oc示士世柿事拭誓pQ势是嗜b'适仕bO释v]氏市fx室视fF收手首守afv@售受瘦兽蔬枢cPh^抒输叔舒淑vu书赎孰熟薯暑a7署vE黍aB属术述树^E戍竖墅rHsy漱恕刷耍摔衰甩帅栓拴霜双爽谁水睡h4"),
    (3964, "吮瞬顺舜说硕朔烁斯]5嘶思私司丝死肆寺嗣c7伺9饲巳松耸怂颂送宋讼a(搜艘擞嗽苏酥俗素速粟僳um溯宿诉肃酸蒜算虽隋;绥髓碎岁穗遂s$祟孙we笋蓑梭唆缩琐zi锁所塌他它她]*獭挞蹋_c胎f=抬台泰酞太t>汰坍摊"),
    (4057, "贪瘫滩坛檀痰潭谭_z坦毯袒碳探叹炭汤塘搪堂棠膛唐糖倘躺淌趟烫掏涛cx绦o=桃逃淘陶讨套特藤腾疼誊梯剔踢tV提题蹄啼体替嚏惕涕剃屉天添填田#恬舔^)挑lw迢眺跳^8vD帖厅b>烃汀廷停亭庭挺艇通桐酮瞳同铜彤童桶"),
    (4152, "捅筒jd痛偷投头透凸秃bU图yC途涂屠土吐兔湍团推颓腿p]fLt=吞xX臀拖^y脱鸵陀lUE椭妥拓唾挖哇蛙洼娃瓦袜歪外豌弯湾oJ顽丸烷完碗挽iL皖惋宛婉万腕汪u0亡枉网往s9c`忘妄alkKep危韦违桅围唯惟"),
    (4239, "为潍维kRd.委伟B尾纬未蔚味畏胃喂魏位渭谓尉p.卫瘟温蚊文闻纹吻稳h^问嗡翁瓮挝蜗涡窝我jg卧握yQ巫呜钨乌污诬屋无芜梧吾-毋_:五捂午舞伍b8vg戊雾晤物勿_A悟误昔熙析西硒_J晰嘻吸锡牺v=息希悉膝夕"),
    (4330, "惜熄^b溪汐rG檄袭席习媳喜铣洗系隙戏细瞎虾匣霞辖暇峡侠狭下pbp0吓掀锨先仙鲜纤咸贤衔舷闲涎弦嫌显险现^u县腺馅羡宪陷_x线相厢镶lJ箱襄湘乡翔祥详想响享项巷橡像iq象萧硝霄削h+eD销消宵淆晓小^E校肖啸"),
    (4423, "笑效l3些歇蝎鞋协挟cZ邪斜胁谐写械卸蟹懈泄a&谢屑薪芯锌欣辛新忻_g信衅星腥猩惺兴b4pAw6邢行醒幸z.性姓兄bI胸匈汹雄熊休bt羞朽嗅锈秀袖绣墟戌需虚嘘须徐许蓄酗叙旭序畜恤絮婿绪:轩喧qko(o>玄选癣"),
    (4514, "眩vh靴薛学穴雪血勋熏循rY询寻驯巡殉bi训9m*_Z压押鸦>呀丫芽牙蚜崖衙涯雅哑亚讶焉咽阉烟淹z.严研蜒岩g,言颜阎炎沿奄掩眼衍演艳堰燕厌砚雁唁彦焰宴谚验殃央鸯秧杨扬佯疡羊洋阳氧仰痒养样tn邀腰妖瑶摇尧遥窑"),
    (4610, "谣姚咬舀dVr)耀椰噎耶爷野冶也页掖业qK曳腋夜液一壹医揖铱依^d衣颐夷遗移仪胰疑沂宜姨p<椅蚁倚已乙矣以艺抑jY邑屹亿役臆逸肄疫亦裔意毅忆义益溢诣_jaK_f异翼_o]Qm6a%因殷音阴姻吟银淫寅饮尹hc隐"),
    (4700, "印英樱婴鹰应缨m`aZ8^9k_y6赢盈影颖硬映哟拥佣臃痈庸雍踊蛹咏泳b0永恿勇用幽优悠^>尤由邮l9犹油df酉有友`o佑釉诱又幼迂淤于盂榆虞愚舆余at逾鱼愉渝.隅予娱雨与屿禹宇语羽玉域芋郁吁遇喻u>h>dN"),
    (4790, "欲vv育誉浴寓裕预豫驭kE渊冤_>rw袁原援辕园员h5猿源缘远苑愿]8院曰约越a(tI岳粤月悦阅耘云郧匀陨允运蕴酝晕韵孕匝砸杂c:哉灾宰载再pb咱攒dW赞`,脏j4遭糟凿藻枣早澡蚤w<噪造皂灶dV责择则泽贼怎"),
    (4879, "增zGp7赠扎喳渣札轧pAcV眨栅e2咋乍炸诈摘cr宅窄债寨瞻毡詹粘沾盏斩辗崭]w蘸栈占战站湛绽樟章彰漳张m;涨杖丈帐账仗胀瘴障招j)找沼赵照罩兆肇召遮折哲蛰yX者锗蔗这浙s3斟真甄iR臻贞uy侦枕疹诊震振镇"),
    (4970, "阵蒸挣睁征狰争怔p'拯y#政帧症郑证芝枝支吱蜘知ylaO汁之织dl直植gh执值^?vs指xb趾只旨纸志irb4至8置帜峙制智秩`x质炙oZ滞治窒中盅忠钟衷终种tY重仲`l舟周州洲诌粥轴肘帚咒皱宙昼骤珠株蛛朱猪"),
    (5059, "诸`*逐竹烛b*拄瞩嘱主著柱助蛀s-w)筑住注祝驻抓爪拽专砖转撰赚篆桩庄装妆撞壮状椎锥追赘坠缀谆准捉_/卓桌琢茁酌啄着灼浊兹i^资姿滋]H孜紫仔籽滓子自渍字鬃棕踪宗综总纵邹走奏揍租足卒族祖诅阻组钻纂嘴醉最罪尊"),
    (5156, "遵昨左佐柞做]QwSuf"), (5170, "亍^vic丐廿卅丕ar_%鬲孬噩丨禺丿nM乇夭爻卮氐囟胤馗毓睾鼗丶aX鼐乜D`q芈孛啬b:仄n@G=9@靥赝匚br^(?G赜卦4刂==V=C8CI:2蒯剽<6F"),
    (5239, "劓]>罔亻?=0`m0A*a,_w`va1_0`w9`)Y`z@攸佚:9/_zBa(5T/1C&4`v_q`w`/aA99_zL@0,EP`xZ_Fa(`*V6_pU'P:aE_dI*=UF`q99HS`w"),
    (5315, "僭61?P;仝氽佘DaX龠汆籴兮巽黉馘冁vJ勹K訇匐]*u=兕亠h=亳衮a%亵脔vu禀嬴蠃羸冫=C6B_nC:讠=8:A89B8?;6;88998::8;;8<9:::::899:<:98988:94<988"),
    (5411, "谥9:8:8:898卩H阝<6G0J6=>BB?<=9K<AP邗;93J,J6:;5/V-0I+:CJ312;G;F=U3<E5AA:刍uD劢A8Hfx勐=Qc.燮qN廴凵>鬯厶弁畚巯坌aL/bta-@C圩:"),
    (5508, "圪@=,8`t`&>`nS`-R-6$<@4a).`/`mT_wD`&Da$:960`-a+2@#0`u9''JU2`r`#a4>L?H`-馨p8懿艹;9G2U`#A:=9ID=)O9P_TV.T8,`/B$"),
    (5591, "芪,`lA_ua,`o%$`r/_tO`%=a#&_wa-@#E8_j,a6a$A8_Kay_I/4aY_b_pW/3S`(_va8_lD0`z6:_Ra=:5:8a1_ga*8#A`0@`0.a)*_sa*"),
    (5661, "荻T=AI9<a/`+*堇萘*_qW_xa5S_x,_mB`w+,8(_z2aU_i(aj,@6QK8)F&_cAZDM9_Ba+aCC:M_vM.,2`m_`O2`*a=5`p甍蔸_Wa8`-RS`,_c4"),
    (5738, "蕙&W31S瞢蕃`v@`p;`&?`1a$%`0a#50Z%RZ`o`%[$`m廾A夼<耷奕<5匏zj:>?r/Ua$SFG4Na#_sa2I/aYa8^r@K`m_Xa.`%`&a4Ea%=`/V_dQ'"),
    (5813, "摒^k/av3_iG<#Q2a,`m`0`p`+a,8`(X=G>D5`nS@弋b^甙弑卟b)C#6JN;'a4>889$`%a%9_iFa?I`*1*a%8`0)'a&`z`$L)U_t6`t8_=`x`y"),
    (5888, "咻;DD89_l81a()Fa,_ka(`$N`&`v8#9M:a,`o`m_3[_sK`1H#2VV88_[4`s`va6_P`u?_n0U`&aG_Z`1aS`%8_u<a@D_qaE_QQ8`/I.`."),
    (5958, "嗯-D8_x8RD&辔嘞`1;,Z6_z9`n=`r`(U_tXL.:'?`y`%D1G8@ES`l:=;K-E=<=6JtZA24WA82DG>::岌%J:=)G8/@9P$R&6=)U-DEI`.QT8["),
    (6050, "崦?-1`/La,`--@`v&K%E`'6VBEN;豳嶷Ee=;B<9:@;:C<?>衢彡犭:;:8B5D6<M>1@9:A)G.8S3E`0K6/DN#>C0V4A@C:F舛夥飧夤`%饣;!%?:=:;:"),
    (6149, "馊::8988庀H1BF2P3@,赓廒6AD9膺忄<D0a#`2M`$:Q>8`+:BXS(,+5S9`&a$`)aF896_g`oJP;J'`-F1Fa@_n-`s2%K_ya[=&E_pCETV`ra&"),
    (6233, "憔JGTX忝隳^-9=998=9<8999!#9::8898丬爿戕氵V?%aH`)B;/`#8B9GZ`n;_xa980`-_z`u-[(:_bYSFa*%`,a&<_^4L,TY`(>`,a$:9`&aM"),
    (6317, "浯`v9_]a$8_g;S`.bN_L5P`w_PX`x_t.3a,_4aP_Aala2`'Ta6_L`n_l8`%*Vb2_q`.a7a<_T_b9M53W`$R__`z`$bZ`+8`$(`+a%>L`p"),
    (6381, "漪`&WaO;6#1A5aF/`%I4CVD'9F`r@/U3QF宀;H5IJ甯骞搴寤A褰寰蹇謇n&T9G@-<4D,T6>R`23@BK8.9LD85O'A0暹遴@<=2?彐>69尻咫屐@]gc1:羼弪6;"),
    (6476, "艴弼鬻屮妁9AS80+`z`(*=`u`'4`o`.a68_v`r_z,XJ4`p9`$I'`t`n`*B`.`mJ胬媪(`#:a3`t_fW9`+`o:E`,G);`tE6S<@bl>^5BE`%9F驵98"),
    (6552, "驺<5:8;:9=98:9:88989899纟999:8;:E988>98;;:;<8>::898R`0;8::88;8:8:98<9:6;9!&:!#9!$9幺畿巛甾邕玎:T+4`w*F`-3D@6T+顼琊"),
    (6660, "珩5.`#a'TR`x_j6:?55&6`nR25;U-HU))8=;JA8`.N`r`/韪88杌>B`1Xa+`)`*@`lF_m`z-F`%#<acP_n`y`&_faK_l`#`l_x`qZ_b,`q"),
    (6734, "栎_Ra+a$8`t8$K`)WV_9a'H_z`m_x5C6`'b#_y`,:S_waFbC_-Z8_x`r_kR-aE_+`taP_g`n`)R`n`.LO`'_[b/_Z8a5_Z`$4MYCK'9`n"),
    (6800, "榱G@L_Ua:_Laa`w_]`q8a<_,aA1aQ_OB_yaH`2_c`2`w[L6P%Ky;R殁8<4E81D8=@轫9;8898969899:89:;988@9^+戋C;;:6;6?臧瓯<BG99"),
    (6884, "攴bQ88QFd@昃I`2炅曷]uN4<6耆晟,$E>B-WD?R-XT8A:贲8:<9:<8985=?;觇:889!#牮`x_]@@F8<>99:挈`qamb&b0耄毪@A/;C96>?:88>?2=?攵W"),
    (6979, "敫牍<;_y虢刖肟4.`p朊肽+19>:`w!#(`.9L+A朐胝E=:0W8`+A朕脒豚脶`/E#QM;>X`,8N&@J8'1塍gG膈1F滕膣>Y朦臊(=`,欤J9A:J飑889;8殳彀毂觳斐齑斓`pA5"),
    (7074, "旃@9;;炀S1>U<.+=a&`)a5::P9a1`0C`$`t_w`u9UR9*/a/+JI[B灬bCa=aB戾6=<8礻<=:I8.>?,@F/JB<GDC忑6a[X4D_yOAa7aJ>a?a;+`u"),
    (7158, "懑a$肀6沓aRcE矶9?@E80斫砭&8S88`+T`0>.=`lV`08_n`q.<U`x/>$L<9F>#`v<'Z=J&VH1M龛^U98盱J@#E8I?.K0F:O8-3NE1:QE':C<E8G<"),
    (7250, "瞽町=E44JN>A罘@5詈罨C4??4盍O蠲钅88;69898;:5<88>8>6:6:8999!$989<;!&988:8896::8899898969:8;8899:89;6;898:88:!$9:98"),
    (7362, "锟:?85:<89988;98:*F88::98:889!#9:85;89!(:988_f矧<雉秕O-?R嵇稃6S-`l5Q黏馥穰皈=<=B瓞9a;鸠9=!$=6<9698;:899!#989:;9:889<"),
    (7473, "鹦!&<3=疒99A4F.G8;C$6J6K.M<55>3S%B:H'<>B*R*4;9X`-5W$:F-E2,QH-?1L;翊竦_18>=9DH1C3<=衤<@B9:W[(<DP#L9C`p`)#M)`x/"),
    (7576, "褓?&`q.BB`lL疋胥皲9cgx=99=;9:8896@_y`qE:><N?zi顸?:=:89<=8:898:8虍>O9H296`t`,5X(A3>`0MDE(P`)A.5Q=`,a$?82=`$a2_j"),
    (7664, "蛴`200`y;(G9:3QO`*>@#[A#4/E?a2_?aJ84`,G`#YT_gGP`/,C`uS0`q+_a4`o`1#`oa)_f@5O?`1K&AHF-E`o4`2CH=O:缶C98hR竺:B2"),
    (7746, "笄H,X`+a'()&L:&<6FB`'a)9`2`w_vH:ED`.G6VM8H+(B`$`l)=@@T'BH4B8;Y)5J>,KB3I@6q-:89`/ro舡88A90:D:/8A=<9;B<@r->:"),
    (7836, "裘>an羝9??89籼敉粑C69;GA8;=<824IHpM暨羿F>G3<:<<糸an`v?b0aC麸3赳HG4W_U=])9nx=58L56F0=E8+9<J0B4;H8>:88=6=豕鹾趸`zQaCG^C"),
    (7928, "趿45AI8:;'8C`2`mB8`2M9`0`l+N@9D9,CB=03?+O/8F8/`m==*<HA<3C9豸A?2J3斛觖?39@=;a>c'靓_5A3N2>>6S::ExI:9!%9^iD9隹:8H"),
    (8024, "雒瞿雠銎WQae`saO_dbF`tws::!#稣鲋:98898<8:!%9!$9989!':!#>!#:!&:88988:89:靼@C89R3/F9i,6>jx骶;9<6<4@8<ac5;96<;飨`lX"),
    (8133, "饕6dr9<@3G)CF>;C;jq8縻麂<8:>鏖麝9a+88:6:>55<<`zA:A5=8=")]

/-- The characters of GBK that are neither those of GB 2312 nor ideographs in their order. -/
def gbkSigns : List (Nat × String) :=
  [(6179, "·"), (6185, "—"), (6366, "ⅰ!)"), (7189, "︵8:8<848:!#"), (7203, "︻8280"), (7209, "︳8"),
    (7410, "ˊ8E–9GGbg;b$!#akA;`vK8aGgp!CE!.;88`n8`l!#[⊕〒B8"), (7532, "ɑ"), (7534, "ń;"), (7537, "ɡ"),
    (7600, "〡!(gYc*8D88:ZA:8:︰eA9"), (7625, "℡㈱"), (7628, "‐"), (7632, "ー_>8aP8]Wb.8﹉!)9!#9!-9!#"), (7685, "〇"),
    (23651, "\uf92ca<SaAA"), (23750, "\ufa0c!#998;>8898:88")]

/-- The characters of two bytes that GB 18030 has beside GBK and the areas of private use. -/
def gb18030Signs : List (Nat × String) :=
  [(6376, "\ue766!%"), (6432, "€\ue76d"), (6444, "\ue76e8"), (6458, "\ue7708"), (6829, "\ue772!*"), (7022, "\ue77d!'"),
    (7150, "\ue785!'"), (7182, "\ue78d!&"), (7201, "\ue7948"), (7208, "\ue796"), (7211, "\ue797!("),
    (7349, "\ue7a0!."), (7397, "\ue7af!,"), (7495, "\ue7bc!*"), (7533, "\ue7c7"), (7536, "ǹ"), (7538, "\ue7c9!#"),
    (7579, "\ue7cd!4"), (7624, "\ue7e2"), (7627, "\ue7e3"), (7629, "\ue7e488"), (7672, "〾_Q!+"), (7686, "\ue7f4!,"),
    (7775, "\ue801!."), (16525, "\ue810!$"),
    (23766, "⺁\ue81688⺄q^_s⺈:\ue81e㖞ak+⺌B㥮_I\ue826㧏Gb+^T\ue82b8㭎c_aa⺧\ue8318⺪䁖cH⺮䌷⺳:8\ue83b䎱2⺻䏝c8dr`2\ue843䜣=aBH⻊䥇`z"),
    (23820, "䥽<898P3S6\ue8548䲣388_u`ra`!&b,\ue864")]

end GirDoc.Text.Grid.Run
